import Mathlib.Algebra.Order.Ring.Nat
import ViewAudit.Proofs.Guide.Topic
import ViewAudit.Report.Basic

/-!
The form of an advice. It is a notice for general advice and then one section
for every topic with a guide, cut at the limit. A section is a header with the
first points of its guide, so wherever the cut falls, every point stands below
the header of its own guide.
-/

namespace ViewAudit

/-! ## Sections -/

/-- What one guide adds to an advice. -/
structure GuideSection where
  guide : String
  points : List String

def GuideSection.entries (part : GuideSection) : List AdviceEntry :=
  .guideHeader part.guide :: part.points.map (.point part.guide)

namespace Advice

/-- The sections of the topics that have a guide. -/
def sections (found : TopicMatch) (corpus : Corpus) (pointsPerGuide : Nat) :
    List GuideSection :=
  found.topics.filterMap fun topic =>
    (corpus.get? topic.name).map fun text => ⟨topic.name, extractPoints text (some pointsPerGuide)⟩

/-- The notice that comes before general advice. -/
def notice (found : TopicMatch) : List AdviceEntry :=
  if found.isGeneral then [.generalNotice] else []

/-- The texts of the points before the first entry of another kind. -/
def leadingPoints : List AdviceEntry → List String
  | .point _ text :: rest => text :: leadingPoints rest
  | _ => []

/-- The guides whose headers are among some entries. -/
def headers (entries : List AdviceEntry) : List String :=
  entries.filterMap fun entry =>
    match entry with
    | .guideHeader guide => some guide
    | _ => none

/-- The texts of the guides of some topics. -/
def guideTexts (found : TopicMatch) (corpus : Corpus) : List String :=
  found.topics.filterMap fun topic => corpus.get? topic.name

theorem allEntries_eq_sections (found : TopicMatch) (corpus : Corpus) (pointsPerGuide : Nat) :
    allEntries found corpus pointsPerGuide =
      notice found ++ (sections found corpus pointsPerGuide).flatMap GuideSection.entries := by
  have htopics (topics : List Topic) :
      topics.flatMap (topicEntries corpus pointsPerGuide) =
        (topics.filterMap fun topic => (corpus.get? topic.name).map fun text =>
          GuideSection.mk topic.name (extractPoints text (some pointsPerGuide))).flatMap
          GuideSection.entries := by
    induction topics with
    | nil => rfl
    | cons topic rest ih =>
        rw [List.flatMap_cons, ih]
        cases hguide : corpus.get? topic.name with
        | none => simp [topicEntries, hguide]
        | some text => simp [topicEntries, hguide, guideEntries, GuideSection.entries]
  rw [allEntries, htopics, notice, sections]

/-- An entry of two lists in a row is in the first one or in the second one. -/
theorem split_append {α : Type} {xs ys before after : List α} {x : α}
    (h : xs ++ ys = before ++ x :: after) :
    (∃ rest, xs = before ++ x :: rest ∧ after = rest ++ ys) ∨
      ∃ rest, before = xs ++ rest ∧ ys = rest ++ x :: after := by
  rcases List.append_eq_append_iff.mp h with ⟨rest, hbefore, hys⟩ | ⟨rest, hxs, hcons⟩
  · exact Or.inr ⟨rest, hbefore, hys⟩
  · cases rest with
    | nil =>
        refine Or.inr ⟨[], ?_, ?_⟩
        · simpa using hxs.symm
        · simpa using hcons.symm
    | cons y rest =>
        obtain ⟨rfl, hafter⟩ := List.cons.inj hcons
        exact Or.inl ⟨rest, hxs, hafter⟩

/-- A section comes from a topic and the text of its guide. -/
theorem exists_topic_of_mem_sections {found : TopicMatch} {corpus : Corpus} {limit : Nat}
    {part : GuideSection} (h : part ∈ sections found corpus limit) :
    ∃ topic ∈ found.topics, ∃ text, corpus.get? topic.name = some text ∧
      part = ⟨topic.name, extractPoints text (some limit)⟩ := by
  obtain ⟨topic, htopic, hpart⟩ := List.mem_filterMap.mp h
  obtain ⟨text, htext, rfl⟩ := Option.map_eq_some_iff.mp hpart
  exact ⟨topic, htopic, text, htext, rfl⟩

/-! ## Points and headers among the sections -/

/-- Above a point there are points of its guide up to the header of the guide. -/
theorem exists_header_above {parts : List GuideSection} {before after : List AdviceEntry}
    {guide text : String}
    (h : parts.flatMap GuideSection.entries = before ++ .point guide text :: after) :
    ∃ front, ∃ points : List String,
      before = front ++ .guideHeader guide :: points.map (.point guide) := by
  induction parts generalizing before with
  | nil => simp at h
  | cons part rest ih =>
      rw [List.flatMap_cons] at h
      rcases split_append h with ⟨more, hpart, -⟩ | ⟨more, hbefore, hrest⟩
      · cases before with
        | nil => simp [GuideSection.entries] at hpart
        | cons header before =>
            obtain ⟨rfl, hpoints⟩ := List.cons.inj hpart
            obtain ⟨points, others, -, rfl, hothers⟩ := List.map_eq_append_iff.mp hpoints
            obtain ⟨point, -, -, hpoint, -⟩ := List.map_eq_cons_iff.mp hothers
            obtain ⟨rfl, -⟩ := AdviceEntry.point.inj hpoint
            exact ⟨[], points, rfl⟩
      · obtain ⟨front, points, rfl⟩ := ih hrest
        exact ⟨part.entries ++ front, points, by rw [hbefore, List.append_assoc]⟩

/-- A header begins a section, so the points of that section follow it, and
then the next sections. -/
theorem exists_section_of_header {parts : List GuideSection} {before after : List AdviceEntry}
    {guide : String}
    (h : parts.flatMap GuideSection.entries = before ++ .guideHeader guide :: after) :
    ∃ part ∈ parts, part.guide = guide ∧ ∃ next : List GuideSection,
      after = part.points.map (.point guide) ++ next.flatMap GuideSection.entries := by
  induction parts generalizing before with
  | nil => simp at h
  | cons part rest ih =>
      rw [List.flatMap_cons] at h
      rcases split_append h with ⟨more, hpart, hafter⟩ | ⟨more, -, hrest⟩
      · cases before with
        | nil =>
            obtain ⟨hguide, hpoints⟩ := List.cons.inj hpart
            cases hguide
            exact ⟨part, List.mem_cons_self, rfl, rest, by rw [hafter, ← hpoints]⟩
        | cons header before =>
            -- After its first entry a section has points only.
            obtain ⟨-, hpoints⟩ := List.cons.inj hpart
            have hmem : AdviceEntry.guideHeader guide ∈ part.points.map (.point part.guide) := by
              rw [hpoints]
              simp
            obtain ⟨_, -, hpoint⟩ := List.mem_map.mp hmem
            cases hpoint
      · obtain ⟨found, hmem, hguide, next, hnext⟩ := ih hrest
        exact ⟨found, List.mem_cons_of_mem _ hmem, hguide, next, hnext⟩

theorem headers_append (entries more : List AdviceEntry) :
    headers (entries ++ more) = headers entries ++ headers more :=
  List.filterMap_append

theorem headers_sections (parts : List GuideSection) :
    headers (parts.flatMap GuideSection.entries) = parts.map GuideSection.guide := by
  induction parts with
  | nil => rfl
  | cons part rest ih =>
      have hpoints : headers (part.points.map (.point part.guide)) = [] := by
        simp [headers, List.filterMap_map]
      have hpart : headers part.entries = [part.guide] := by
        rw [GuideSection.entries, headers, List.filterMap_cons, ← headers, hpoints]
      rw [List.flatMap_cons, headers_append, ih, hpart]
      rfl

theorem mem_headers {guide : String} {entries : List AdviceEntry} :
    guide ∈ headers entries ↔ .guideHeader guide ∈ entries := by
  rw [headers, List.mem_filterMap]
  constructor
  · rintro ⟨entry, hmem, hentry⟩
    cases entry with
    | guideHeader other =>
        cases hentry
        exact hmem
    | generalNotice => cases hentry
    | point _ _ => cases hentry
  · intro hmem
    exact ⟨_, hmem, rfl⟩

theorem count_headers (guide : String) (entries : List AdviceEntry) :
    entries.count (.guideHeader guide) = (headers entries).count guide := by
  induction entries with
  | nil => rfl
  | cons entry rest ih =>
      cases entry with
      | guideHeader other => simp [headers, List.count_cons, ih]
      | generalNotice => simpa [headers, List.count_cons] using ih
      | point _ _ => simpa [headers, List.count_cons] using ih

/-! ## Leading points -/

theorem leadingPoints_points (guide : String) (points : List String) (rest : List AdviceEntry) :
    leadingPoints (points.map (.point guide) ++ rest) = points ++ leadingPoints rest := by
  induction points with
  | nil => rfl
  | cons point points ih =>
      rw [List.map_cons, List.cons_append, leadingPoints, ih]
      rfl

theorem leadingPoints_sections (parts : List GuideSection) :
    leadingPoints (parts.flatMap GuideSection.entries) = [] := by
  cases parts <;> rfl

theorem leadingPoints_prefix (entries more : List AdviceEntry) :
    leadingPoints entries <+: leadingPoints (entries ++ more) := by
  induction entries with
  | nil => exact List.nil_prefix
  | cons entry rest ih =>
      cases entry with
      | point guide text =>
          rw [List.cons_append, leadingPoints, leadingPoints]
          exact List.cons_prefix_cons.mpr ⟨rfl, ih⟩
      | generalNotice => exact List.nil_prefix
      | guideHeader guide => exact List.nil_prefix

/-- Leading points that a header ends are not changed by what comes later. -/
theorem leadingPoints_append_of_header {guide : String} {entries : List AdviceEntry}
    (h : .guideHeader guide ∈ entries) (more : List AdviceEntry) :
    leadingPoints (entries ++ more) = leadingPoints entries := by
  induction entries with
  | nil => cases h
  | cons entry rest ih =>
      cases entry with
      | point other text =>
          have hrest : AdviceEntry.guideHeader guide ∈ rest := by
            rcases List.mem_cons.mp h with heq | hmem
            · cases heq
            · exact hmem
          rw [List.cons_append, leadingPoints, leadingPoints, ih hrest]
      | generalNotice => rfl
      | guideHeader other => rfl

theorem headers_allEntries_sublist (text : String) (corpus : Corpus) (limit : Nat) :
    (headers (allEntries (TopicMatch.ofText text) corpus limit)).Sublist
      ["navigation", "actions"] := by
  have hnotice : headers (notice (TopicMatch.ofText text)) = [] := by
    unfold notice
    split <;> rfl
  have hguides (topics : List Topic) :
      ((topics.filterMap fun topic => (corpus.get? topic.name).map fun text =>
        GuideSection.mk topic.name (extractPoints text (some limit))).map
          GuideSection.guide).Sublist (topics.map Topic.name) := by
    induction topics with
    | nil => exact List.Sublist.slnil
    | cons topic rest ih =>
        cases hguide : corpus.get? topic.name with
        | none =>
            rw [List.filterMap_cons_none (by rw [hguide]; rfl)]
            exact ih.cons _
        | some text =>
            rw [List.filterMap_cons_some (by rw [hguide]; rfl)]
            exact ih.cons_cons _
  rw [allEntries_eq_sections, headers_append, hnotice, headers_sections]
  exact (hguides _).trans ((TopicMatch.topics_ofText_sublist text).map Topic.name)

/-- The number of all entries: one for the notice, and for every guide one for
its header and one for each of its points within the limit. -/
theorem length_allEntries (found : TopicMatch) (corpus : Corpus) (limit : Nat) :
    (allEntries found corpus limit).length =
      (if found.isGeneral then 1 else 0) +
        ((guideTexts found corpus).map fun text =>
          1 + min limit (extractPoints text).length).sum := by
  have hpoints (text : String) : (extractPoints text (some limit)).length =
      min limit (extractPoints text).length := by
    simp [extractPoints]
  have htopics (topics : List Topic) :
      (topics.flatMap (topicEntries corpus limit)).length =
        ((topics.filterMap fun topic => corpus.get? topic.name).map fun text =>
          1 + min limit (extractPoints text).length).sum := by
    induction topics with
    | nil => rfl
    | cons topic rest ih =>
        rw [List.flatMap_cons, List.length_append, ih]
        cases hguide : corpus.get? topic.name with
        | none => simp [topicEntries, hguide]
        | some text =>
            simp [topicEntries, hguide, guideEntries, hpoints, Nat.add_comm 1]
  rw [allEntries, List.length_append, htopics, guideTexts]
  cases found.isGeneral <;> rfl

/-! ## The form of an advice -/

/-- The form of an advice on a text. The entries up to the limit come first in
all entries, whose number does not depend on the limit. -/
structure IsOrderly (text : String) (corpus : Corpus) (limits : AdviceLimits)
    (advice : Advice) : Prop where
  found_eq : advice.found = TopicMatch.ofText text
  length_entries : advice.entries.length = min limits.entries advice.total
  isTruncated_iff : advice.isTruncated = true ↔ limits.entries < advice.total
  total_of_limit : ∀ limit,
    (ofText text corpus { limits with entries := limit }).total = advice.total
  prefix_of_le : ∀ limit, limits.entries ≤ limit →
    advice.entries <+: (ofText text corpus { limits with entries := limit }).entries
  /-- The notice is the first entry of general advice and no other one. -/
  notice_iff : ∀ index, advice.entries[index]? = some .generalNotice ↔
    index = 0 ∧ advice.found.isGeneral = true ∧ 1 ≤ limits.entries
  /-- Only points of its guide stand between a point and the header above it. -/
  point_below_header : ∀ before guide point after,
    advice.entries = before ++ .point guide point :: after →
      ∃ front, ∃ points : List String,
        before = front ++ .guideHeader guide :: points.map (.point guide)
  count_header_le : ∀ guide, advice.entries.count (.guideHeader guide) ≤ 1
  navigation_before_actions : ∀ before after,
    advice.entries = before ++ .guideHeader Topic.actions.name :: after →
      .guideHeader Topic.navigation.name ∉ after
  topic_of_header : ∀ guide, .guideHeader guide ∈ advice.entries →
    ∃ topic ∈ advice.found.topics, topic.name = guide ∧ (corpus.get? guide).isSome = true
  /-- Below a header stand the first points of its guide; only the last header
  of an advice that was cut may have fewer. -/
  points_of_header : ∀ before guide after,
    advice.entries = before ++ .guideHeader guide :: after →
      ∃ document, corpus.get? guide = some document ∧
        let points := (extractPoints document).take limits.pointsPerGuide
        leadingPoints after <+: points ∧
          (advice.isTruncated = false ∨ (∃ other, .guideHeader other ∈ after) →
            leadingPoints after = points)
  total_eq : advice.total = (if advice.found.isGeneral then 1 else 0) +
    ((guideTexts advice.found corpus).map fun document =>
      1 + min limits.pointsPerGuide (extractPoints document).length).sum

variable {text : String} {corpus : Corpus} {limits : AdviceLimits}

/-- The entries of an advice are the first of all its entries. -/
theorem exists_entries_append (text : String) (corpus : Corpus) (limits : AdviceLimits) :
    ∃ dropped, (ofText text corpus limits).entries ++ dropped =
      allEntries (TopicMatch.ofText text) corpus limits.pointsPerGuide :=
  ⟨_, List.take_append_drop limits.entries _⟩

/-- A header or a point of an advice stands in its sections, after the notice if
there is one. -/
theorem split_sections {before after : List AdviceEntry} {entry : AdviceEntry}
    (hentry : entry ≠ .generalNotice)
    (h : allEntries (TopicMatch.ofText text) corpus limits.pointsPerGuide =
      before ++ entry :: after) :
    ∃ rest, before = notice (TopicMatch.ofText text) ++ rest ∧
      (sections (TopicMatch.ofText text) corpus limits.pointsPerGuide).flatMap
        GuideSection.entries = rest ++ entry :: after := by
  rw [allEntries_eq_sections] at h
  rcases split_append h with ⟨rest, hnotice, -⟩ | hsections
  · have hmem : entry ∈ notice (TopicMatch.ofText text) := by
      rw [hnotice]
      simp
    unfold notice at hmem
    split at hmem
    · exact absurd (List.mem_singleton.mp hmem) hentry
    · cases hmem
  · exact hsections

theorem generalNotice_not_mem_sections (parts : List GuideSection) :
    AdviceEntry.generalNotice ∉ parts.flatMap GuideSection.entries := by
  intro hmem
  obtain ⟨part, -, hpart⟩ := List.mem_flatMap.mp hmem
  rcases List.mem_cons.mp hpart with hheader | hpoint
  · cases hheader
  · obtain ⟨_, -, hpoint⟩ := List.mem_map.mp hpoint
    cases hpoint

theorem getElem?_allEntries_eq_notice_iff (found : TopicMatch) (corpus : Corpus)
    (limit index : Nat) :
    (allEntries found corpus limit)[index]? = some .generalNotice ↔
      index = 0 ∧ found.isGeneral = true := by
  have hsections (i : Nat) : ((sections found corpus limit).flatMap GuideSection.entries)[i]? ≠
      some .generalNotice := by
    intro hget
    exact generalNotice_not_mem_sections _ (List.mem_of_getElem? hget)
  rw [allEntries_eq_sections, notice]
  cases hgeneral : found.isGeneral with
  | false => simp [hsections]
  | true =>
      cases index with
      | zero => simp
      | succ index => simpa using hsections index

theorem points_of_header {before after : List AdviceEntry} {guide : String}
    (h : (ofText text corpus limits).entries = before ++ .guideHeader guide :: after) :
    ∃ topic ∈ (TopicMatch.ofText text).topics, topic.name = guide ∧
      ∃ document, corpus.get? guide = some document ∧
        let points := (extractPoints document).take limits.pointsPerGuide
        leadingPoints after <+: points ∧
          ((ofText text corpus limits).isTruncated = false ∨
              (∃ other, .guideHeader other ∈ after) →
            leadingPoints after = points) := by
  obtain ⟨dropped, hdropped⟩ := exists_entries_append text corpus limits
  have hall := hdropped.symm
  rw [h, List.append_assoc, List.cons_append] at hall
  obtain ⟨rest, -, hsections⟩ := split_sections (by simp) hall
  obtain ⟨part, hmem, rfl, next, hafter⟩ := exists_section_of_header hsections
  obtain ⟨topic, htopic, document, hdocument, rfl⟩ := exists_topic_of_mem_sections hmem
  have hpoints : leadingPoints (after ++ dropped) =
      (extractPoints document).take limits.pointsPerGuide := by
    rw [hafter, leadingPoints_points, leadingPoints_sections, List.append_nil]
    rfl
  refine ⟨topic, htopic, rfl, document, hdocument, ?_, ?_⟩
  · rw [← hpoints]
    exact leadingPoints_prefix after dropped
  · rintro (hcut | ⟨other, hother⟩)
    · have hnone : dropped = [] := by
        have hlength := congrArg List.length hdropped
        rw [List.length_append] at hlength
        simp only [isTruncated, decide_eq_false_iff_not, Nat.not_lt] at hcut
        rw [← List.length_eq_zero_iff]
        have htotal : (ofText text corpus limits).total =
            (allEntries (TopicMatch.ofText text) corpus limits.pointsPerGuide).length := rfl
        omega
      rw [← hpoints, hnone, List.append_nil]
    · rw [← hpoints, leadingPoints_append_of_header hother]

theorem headers_ofText_sublist (text : String) (corpus : Corpus) (limits : AdviceLimits) :
    (headers (ofText text corpus limits).entries).Sublist ["navigation", "actions"] := by
  obtain ⟨dropped, hdropped⟩ := exists_entries_append text corpus limits
  have hall := headers_allEntries_sublist text corpus limits.pointsPerGuide
  rw [← hdropped, headers_append] at hall
  exact (List.sublist_append_left _ _).trans hall

theorem isOrderly_ofText (text : String) (corpus : Corpus) (limits : AdviceLimits) :
    IsOrderly text corpus limits (ofText text corpus limits) where
  found_eq := rfl
  length_entries := List.length_take
  isTruncated_iff := by
    simp only [isTruncated, ofText, List.length_take, decide_eq_true_eq]
    omega
  total_of_limit _ := rfl
  prefix_of_le _ hle := List.take_prefix_take_left hle
  notice_iff index := by
    rw [ofText, List.getElem?_take]
    split
    · rw [getElem?_allEntries_eq_notice_iff]
      constructor
      · rintro ⟨rfl, hgeneral⟩
        exact ⟨rfl, hgeneral, by omega⟩
      · rintro ⟨rfl, hgeneral, -⟩
        exact ⟨rfl, hgeneral⟩
    · constructor
      · intro hnone
        cases hnone
      · rintro ⟨rfl, -, hlimit⟩
        omega
  point_below_header before guide point after h := by
    obtain ⟨dropped, hdropped⟩ := exists_entries_append text corpus limits
    have hall := hdropped.symm
    rw [h, List.append_assoc, List.cons_append] at hall
    obtain ⟨rest, rfl, hsections⟩ := split_sections (by simp) hall
    obtain ⟨front, points, rfl⟩ := exists_header_above hsections
    exact ⟨notice (TopicMatch.ofText text) ++ front, points, by rw [List.append_assoc]⟩
  count_header_le guide := by
    have hcount := (headers_ofText_sublist text corpus limits).count_le guide
    have hnodup : ["navigation", "actions"].count guide ≤ 1 :=
      List.nodup_iff_count.mp (by decide) guide
    rw [count_headers]
    omega
  navigation_before_actions before after h hmem := by
    have hsublist := headers_ofText_sublist text corpus limits
    rw [h, headers_append] at hsublist
    have hpair : [Topic.actions.name, Topic.navigation.name].Sublist
        (headers (.guideHeader Topic.actions.name :: after)) :=
      List.Sublist.cons_cons _ (List.singleton_sublist.mpr (mem_headers.mpr hmem))
    have hreverse := (hpair.trans (List.sublist_append_right _ _)).trans hsublist
    exact absurd hreverse (by decide)
  topic_of_header guide hmem := by
    obtain ⟨before, after, hsplit⟩ := List.append_of_mem hmem
    obtain ⟨topic, htopic, hname, document, hdocument, -⟩ := points_of_header hsplit
    exact ⟨topic, htopic, hname, by rw [hdocument]; rfl⟩
  points_of_header before guide after h := by
    obtain ⟨-, -, -, document, hdocument⟩ := points_of_header h
    exact ⟨document, hdocument⟩
  total_eq := length_allEntries _ corpus limits.pointsPerGuide

/-- Under the usual limits there is at most a notice and two sections of four
entries. -/
theorem total_ofText_le (text : String) (corpus : Corpus) : (ofText text corpus).total ≤ 9 := by
  have htotal : (ofText text corpus).total =
      (if (TopicMatch.ofText text).isGeneral then 1 else 0) +
        ((guideTexts (TopicMatch.ofText text) corpus).map fun document =>
          1 + min 3 (extractPoints document).length).sum :=
    length_allEntries (TopicMatch.ofText text) corpus 3
  have htopics : (TopicMatch.ofText text).topics.length ≤ 2 :=
    (TopicMatch.topics_ofText_sublist text).length_le
  have hguides : (guideTexts (TopicMatch.ofText text) corpus).length ≤ 2 :=
    Nat.le_trans (List.length_filterMap_le _ _) htopics
  have hsum (documents : List String) :
      (documents.map fun document => 1 + min 3 (extractPoints document).length).sum ≤
        4 * documents.length := by
    induction documents with
    | nil => simp
    | cons document rest ih =>
        rw [List.map_cons, List.sum_cons, List.length_cons]
        omega
  have hbound := hsum (guideTexts (TopicMatch.ofText text) corpus)
  rw [htotal]
  split <;> omega

end Advice

/-- Every advice is a notice and the sections of the guides, cut at the limit,
and a report under the usual limits gives the exact number of all its entries. -/
theorem advice_is_orderly (text : String) (corpus : Corpus) (limits : AdviceLimits) :
    (Advice.ofText text corpus limits).IsOrderly text corpus limits ∧
      (Advice.ofText text corpus).total ≤ 9 ∧
      ∀ run, (AdviceReport.ofText text corpus run).recommendationsTotal.toNat =
        (Advice.ofText text corpus).total := by
  have hle := Advice.total_ofText_le text corpus
  refine ⟨Advice.isOrderly_ofText text corpus limits, hle, fun run => ?_⟩
  apply UInt32.toNat_ofNat_of_lt'
  have hsize : UInt32.size = 4294967296 := rfl
  omega

end ViewAudit
