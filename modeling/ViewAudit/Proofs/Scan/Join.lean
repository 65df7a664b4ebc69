import ViewAudit.Proofs.Guide.Topic
import ViewAudit.Proofs.Scan.Table

/-!
Texts with a separator between them. No match goes across a character that is
neither part of a word nor a blank nor one of the marks that constructs are
written with, and at such a character words end as they do at the end of a text.
So what is found in texts joined by separators is what is found in one of them.
-/

namespace ViewAudit

/-- A character that nothing which is looked for has in it. -/
structure IsSeparator (c : Char) : Prop where
  not_word : isWordChar c = false
  not_blank : isBlank c = false
  not_mark : c ≠ '.' ∧ c ≠ '(' ∧ c ≠ ':'

instance (c : Char) : Decidable (IsSeparator c) :=
  decidable_of_iff (isWordChar c = false ∧ isBlank c = false ∧ c ≠ '.' ∧ c ≠ '(' ∧ c ≠ ':')
    ⟨fun h => ⟨h.1, h.2.1, h.2.2⟩, fun h => ⟨h.not_word, h.not_blank, h.not_mark⟩⟩

/-- Whether a word has no separator in it. -/
def isUnseparated (word : String) : Bool :=
  word.toList.all fun c => isWordChar c || c = '.' || c = '(' || c = ':'

theorem IsSeparator.not_mem {c : Char} (hc : IsSeparator c) {word : String}
    (hword : isUnseparated word = true) : c ∉ word.toList := by
  intro hmem
  have hall := List.all_eq_true.mp hword c hmem
  obtain ⟨hdot, hparenthesis, hcolon⟩ := hc.not_mark
  simp [hc.not_word, hdot, hparenthesis, hcolon] at hall

/-! ## Parts on either side -/

/-- A part without the character `c` lies before or after it. -/
theorem exists_side_of_not_mem {text more before part after : List Char} {c : Char}
    (hc : c ∉ part) (h : text ++ c :: more = before ++ part ++ after) :
    (∃ back, text = before ++ part ++ back ∧ after = back ++ c :: more) ∨
      ∃ front, before = text ++ c :: front ∧ more = front ++ part ++ after := by
  rcases List.append_eq_append_iff.mp h with ⟨beyond, hpart, hrest⟩ | ⟨back, htext, hafter⟩
  · cases beyond with
    | nil =>
        refine Or.inl ⟨[], ?_, ?_⟩
        · simpa using hpart.symm
        · simpa using hrest.symm
    | cons d beyond =>
        obtain ⟨rfl, rfl⟩ := List.cons.inj hrest
        rcases List.append_eq_append_iff.mp hpart with ⟨within, -, hwithin⟩ | ⟨front, rfl, hfront⟩
        · exact absurd (hwithin ▸ List.mem_append_right within List.mem_cons_self) hc
        · cases front with
          | nil =>
              obtain rfl : c :: beyond = part := hfront
              exact absurd List.mem_cons_self hc
          | cons e front =>
              obtain ⟨rfl, rfl⟩ := List.cons.inj hfront
              exact Or.inr ⟨front, rfl, rfl⟩
  · exact Or.inl ⟨back, htext, hafter⟩

/-- A test on texts that finds nothing across a separator and loses nothing by
it. -/
def StopsAtSeparators (test : List Char → Prop) : Prop :=
  ∀ (text more : List Char) (c : Char), IsSeparator c →
    (test (text ++ c :: more) ↔ test text ∨ test more)

theorem StopsAtSeparators.congr {test other : List Char → Prop}
    (h : ∀ text, test text ↔ other text) (htest : StopsAtSeparators test) :
    StopsAtSeparators other := by
  intro text more c hc
  rw [← h, ← h, ← h]
  exact htest text more c hc

/-- One of several tests finds something. -/
theorem StopsAtSeparators.exists_mem {α : Type} {choices : List α} {test : α → List Char → Prop}
    (h : ∀ choice ∈ choices, StopsAtSeparators (test choice)) :
    StopsAtSeparators fun text => ∃ choice ∈ choices, test choice text := by
  intro text more c hc
  rw [← exists_or]
  refine exists_congr fun choice => ?_
  rw [← and_or_left]
  exact and_congr_right fun hmem => h choice hmem text more c hc

/-! ## Searches -/

theorem stopsAtSeparators_of_not_mem {word : List Char} (fold : Char → Char)
    (hword : ∀ c, IsSeparator c → fold c ∉ word) :
    StopsAtSeparators fun text => word <:+: text.map fold := by
  intro text more c hc
  simp only [List.map_append, List.map_cons]
  constructor
  · rintro ⟨before, after, h⟩
    rcases exists_side_of_not_mem (hword c hc) h.symm with ⟨back, htext, -⟩ | ⟨front, -, hmore⟩
    · exact Or.inl ⟨before, back, htext.symm⟩
    · exact Or.inr ⟨front, after, hmore.symm⟩
  · rintro (h | h)
    · exact List.infix_append_of_infix_left h
    · exact List.infix_append_of_infix_right (List.infix_cons h)

theorem foldCase_of_not_isWordChar {c : Char} (h : isWordChar c = false) : foldCase c = c := by
  by_cases hascii : c.toNat < 0x80
  · exact forall_ascii (P := fun c => isWordChar c = false → foldCase c = c)
      (by decide +kernel) hascii h
  · have hkelvin : c ≠ '\u212a' := by
      rintro rfl
      have hword : isWordChar '\u212a' = true := by decide +kernel
      simp [hword] at h
    rw [foldCase, if_neg hkelvin, toLower_eq_self (Nat.not_lt.mp hascii)]

theorem stopsAtSeparators_occursIn {word : String} (hword : isUnseparated word = true) :
    StopsAtSeparators fun text => occursIn word.toList text = true := by
  have hid : ∀ c, IsSeparator c → id c ∉ word.toList := fun c hc => hc.not_mem hword
  apply (stopsAtSeparators_of_not_mem id hid).congr
  intro text
  rw [List.map_id, occursIn_iff]

theorem stopsAtSeparators_lowerText {word : String} (hsearch : IsSearchWord word.toList)
    (hword : isUnseparated word = true) :
    StopsAtSeparators fun text => occursIn word.toList (lowerText text) = true := by
  have hfold : ∀ c, IsSeparator c → foldCase c ∉ word.toList := by
    intro c hc
    rw [foldCase_of_not_isWordChar hc.not_word]
    exact hc.not_mem hword
  apply (stopsAtSeparators_of_not_mem foldCase hfold).congr
  intro text
  rw [occursIn_lowerText_iff_hasKeyword hsearch, hasKeyword_iff_map]

/-! ## Patterns -/

/-- Whether the words of a step have no separator in them. -/
def Piece.isUnseparated : Piece → Bool
  | .word text => ViewAudit.isUnseparated text
  | .oneOf words => words.all ViewAudit.isUnseparated
  | .blanks | .edge => true

theorem IsSeparator.not_mem_of_takesAll {c : Char} (hc : IsSeparator c) {pieces : List Piece}
    (hpieces : pieces.all Piece.isUnseparated = true) {before : Option Char}
    {taken after : List Char} (h : TakesAll before taken after pieces) : c ∉ taken := by
  induction pieces generalizing before taken with
  | nil =>
      obtain rfl : taken = [] := h
      exact List.not_mem_nil
  | cons piece rest ih =>
      obtain ⟨hpiece, hrest⟩ := Bool.and_eq_true_iff.mp hpieces
      obtain ⟨first, more, rfl, hfirst, hmore⟩ := takesAll_cons.mp h
      rw [List.mem_append, not_or]
      refine ⟨?_, ih hrest hmore⟩
      cases piece with
      | word text =>
          obtain rfl : first = text.toList := hfirst
          exact hc.not_mem hpiece
      | oneOf words =>
          obtain ⟨text, hmem, rfl⟩ := hfirst
          exact hc.not_mem (List.all_eq_true.mp hpiece text hmem)
      | blanks =>
          intro hmem
          have hblank : isBlank c = true := hfirst c hmem
          simp [hc.not_blank] at hblank
      | edge =>
          obtain ⟨rfl, -⟩ := hfirst
          exact List.not_mem_nil

theorem stopsAtSeparators_occurs {pattern : Pattern}
    (hpattern : ∀ pieces ∈ pattern, pieces.all Piece.isUnseparated = true) :
    StopsAtSeparators fun text => pattern.occurs text = true := by
  intro text more c hc
  -- Words end at the separator as they do at the end of a text.
  have hhead (back : List Char) :
      (back ++ c :: more).head?.any isWordChar = back.head?.any isWordChar := by
    cases back with
    | nil => exact hc.not_word
    | cons d back => rfl
  have hlast (front : List Char) :
      (text ++ c :: front).getLast?.any isWordChar = front.getLast?.any isWordChar := by
    have hstart : (some c).any isWordChar = (none : Option Char).any isWordChar := hc.not_word
    rw [← charBefore_none, ← charBefore_none, charBefore_append, charBefore_cons]
    exact any_charBefore_congr hstart front
  simp only [Pattern.occurs_iff]
  constructor
  · rintro ⟨pieces, hmem, before, part, after, heq, htakes⟩
    have hpart := hc.not_mem_of_takesAll (hpattern pieces hmem) htakes
    rcases exists_side_of_not_mem hpart heq with ⟨back, rfl, rfl⟩ | ⟨front, rfl, rfl⟩
    · exact Or.inl ⟨pieces, hmem, before, part, back, rfl,
        htakes.congr fun _ => ⟨rfl, hhead back⟩⟩
    · exact Or.inr ⟨pieces, hmem, front, part, after, rfl,
        htakes.congr fun _ => ⟨hlast front, rfl⟩⟩
  · rintro (⟨pieces, hmem, before, part, after, rfl, htakes⟩ |
      ⟨pieces, hmem, before, part, after, rfl, htakes⟩)
    · exact ⟨pieces, hmem, before, part, after ++ c :: more, by simp,
        htakes.congr fun _ => ⟨rfl, (hhead after).symm⟩⟩
    · exact ⟨pieces, hmem, text ++ c :: before, part, after, by simp,
        htakes.congr fun _ => ⟨(hlast before).symm, rfl⟩⟩

/-! ## Signals and topics -/

theorem Construct.stopsAtSeparators (construct : Construct) :
    StopsAtSeparators fun text => construct.isPresent text = true := by
  apply stopsAtSeparators_occurs
  cases construct <;> decide +kernel

theorem Signal.stopsAtSeparators {signal : Signal} (hsignal : signal ≠ .exceedsFragmentLength)
    (limit : Nat) : StopsAtSeparators fun text => signal.holds limit text = true := by
  cases signal with
  | present construct => exact construct.stopsAtSeparators
  | mentionsAccessibility =>
      have hword : isUnseparated "accessibility" = true := by decide +kernel
      exact stopsAtSeparators_lowerText hasPlainLetters_accessibility.toIsSearchWord hword
  | usesColor =>
      have hwords : ∀ word ∈ colorIndicators, isUnseparated word = true := by decide +kernel
      have hexists := StopsAtSeparators.exists_mem fun word hmem =>
        stopsAtSeparators_occursIn (hwords word hmem)
      exact hexists.congr fun text => List.any_eq_true.symm
  | exceedsFragmentLength => contradiction

theorem Topic.stopsAtSeparators (topic : Topic) :
    StopsAtSeparators fun text => topic.matchesText text = true := by
  have hwords : ∀ word ∈ topic.keywords, isUnseparated word = true := by
    cases topic <;> decide +kernel
  have hexists := StopsAtSeparators.exists_mem fun word hmem =>
    stopsAtSeparators_lowerText (isSearchWord_of_mem_keywords hmem) (hwords word hmem)
  exact hexists.congr fun text => List.any_eq_true.symm

namespace TopicMatch

theorem isGeneral_ofText_iff {text : String} :
    (ofText text).isGeneral = true ↔ ∀ topic : Topic, ¬ topic.matchesText text.toList = true := by
  simp only [Topic.matchesText_iff]
  constructor
  · intro h topic hsubject
    rw [ofText_of_isSubjectOf hsubject] at h
    cases h
  · intro hnone
    rw [ofText_of_not_isSubjectOf hnone]

theorem topics_ofText_of_not_isGeneral {text : String} (h : (ofText text).isGeneral = false) :
    (ofText text).topics = Topic.all.filter (·.matchesText text.toList) := by
  rw [ofText] at h ⊢
  split at h
  · cases h
  · rfl

end TopicMatch

/-! ## Joined texts -/

/-- Texts in a row, each of them but the first after a character of its own. -/
def joined (first : String) : List (Char × String) → String
  | [] => first
  | (c, next) :: rest => first ++ String.singleton c ++ joined next rest

theorem StopsAtSeparators.joined_iff {test : List Char → Prop} (htest : StopsAtSeparators test)
    {rest : List (Char × String)} (hrest : ∀ next ∈ rest, IsSeparator next.1) (first : String) :
    test (joined first rest).toList ↔
      ∃ part ∈ first :: rest.map Prod.snd, test part.toList := by
  induction rest generalizing first with
  | nil => simp [joined]
  | cons next rest ih =>
      obtain ⟨c, text⟩ := next
      obtain ⟨hc, hlater⟩ := List.forall_mem_cons.mp hrest
      have hchars : (joined first ((c, text) :: rest)).toList =
          first.toList ++ c :: (joined text rest).toList := by
        simp [joined]
      rw [hchars, htest _ _ c hc, ih hlater, List.map_cons]
      simp only [List.mem_cons, exists_eq_or_imp]

/-- What is found in a text is what is found in one of some parts: constructs,
the mention of accessibility, the use of a color and the words of topics, in
every lower-case form. -/
structure FoundInParts (text : String) (parts : List String) : Prop where
  isPresent_iff : ∀ construct : Construct, construct.isPresent text.toList = true ↔
    ∃ part ∈ parts, construct.isPresent part.toList = true
  mentionsAccessibility_iff : ∀ limit,
    Signal.mentionsAccessibility.holds limit text.toList = true ↔
      ∃ part ∈ parts, Signal.mentionsAccessibility.holds limit part.toList = true
  usesColor_iff : ∀ limit, Signal.usesColor.holds limit text.toList = true ↔
    ∃ part ∈ parts, Signal.usesColor.holds limit part.toList = true
  occursIn_lower_iff : ∀ casing : LowerCasing,
    ∀ word ∈ "accessibility" :: Topic.all.flatMap Topic.keywords,
      occursIn word.toList (casing.lower text.toList) = true ↔
        ∃ part ∈ parts, occursIn word.toList (casing.lower part.toList) = true
  isGeneral_iff : (TopicMatch.ofText text).isGeneral = true ↔
    ∀ part ∈ parts, (TopicMatch.ofText part).isGeneral = true
  topics_eq : (TopicMatch.ofText text).isGeneral = false →
    (TopicMatch.ofText text).topics =
      Topic.all.filter fun topic => parts.any fun part => topic.matchesText part.toList

theorem foundInParts_of_stopsAtSeparators {text : String} {parts : List String}
    (h : ∀ test, StopsAtSeparators test → (test text.toList ↔ ∃ part ∈ parts, test part.toList)) :
    FoundInParts text parts where
  isPresent_iff construct := h _ construct.stopsAtSeparators
  mentionsAccessibility_iff limit := h _ (Signal.stopsAtSeparators (by decide) limit)
  usesColor_iff limit := h _ (Signal.stopsAtSeparators (by decide) limit)
  occursIn_lower_iff casing word hmem := by
    have hall : ∀ word ∈ "accessibility" :: Topic.all.flatMap Topic.keywords,
        IsSearchWord word.toList ∧ isUnseparated word = true := by decide +kernel
    obtain ⟨hsearch, hword⟩ := hall word hmem
    simp only [casing.occursIn_lower hsearch.ascii]
    exact h _ (stopsAtSeparators_lowerText hsearch hword)
  isGeneral_iff := by
    simp only [TopicMatch.isGeneral_ofText_iff, (h _ (Topic.stopsAtSeparators _))]
    constructor
    · intro hnone part hpart topic hmatches
      exact hnone topic ⟨part, hpart, hmatches⟩
    · rintro hnone topic ⟨part, hpart, hmatches⟩
      exact hnone part hpart topic hmatches
  topics_eq hgeneral := by
    rw [TopicMatch.topics_ofText_of_not_isGeneral hgeneral]
    apply List.filter_congr
    intro topic _
    rw [Bool.eq_iff_iff, List.any_eq_true]
    exact h _ topic.stopsAtSeparators

theorem foundInParts_joined {rest : List (Char × String)}
    (hrest : ∀ next ∈ rest, IsSeparator next.1) (first : String) :
    FoundInParts (joined first rest) (first :: rest.map Prod.snd) :=
  foundInParts_of_stopsAtSeparators fun _ htest => htest.joined_iff hrest first

/-- What is found in texts with separators between them is what is found in one
of them, so neither their order nor the choice of separators makes a difference. -/
theorem separators_keep_texts_apart :
    (∀ (first second : String) (c : Char), IsSeparator c →
      FoundInParts (first ++ String.singleton c ++ second) [first, second]) ∧
    (∀ (first : String) (rest : List (Char × String)), (∀ next ∈ rest, IsSeparator next.1) →
      FoundInParts (joined first rest) (first :: rest.map Prod.snd)) ∧
    ∀ (first other : String) (rest others : List (Char × String)),
      (∀ next ∈ rest, IsSeparator next.1) → (∀ next ∈ others, IsSeparator next.1) →
        (first :: rest.map Prod.snd).Perm (other :: others.map Prod.snd) →
        (∀ signal : Signal, signal ≠ .exceedsFragmentLength → ∀ limit,
          signal.holds limit (joined first rest).toList =
            signal.holds limit (joined other others).toList) ∧
        TopicMatch.ofText (joined first rest) = TopicMatch.ofText (joined other others) := by
  refine ⟨fun first second c hc => ?_, fun first rest hrest => foundInParts_joined hrest first,
    fun first other rest others hrest hothers hperm => ?_⟩
  · have hone : ∀ next ∈ [(c, second)], IsSeparator next.1 := by simpa using hc
    exact foundInParts_joined hone first
  · have hsame {test : List Char → Prop} (htest : StopsAtSeparators test) :
        test (joined first rest).toList ↔ test (joined other others).toList := by
      rw [htest.joined_iff hrest, htest.joined_iff hothers]
      exact exists_congr fun part => and_congr_left fun _ => hperm.mem_iff
    constructor
    · intro signal hsignal limit
      rw [Bool.eq_iff_iff]
      exact hsame (Signal.stopsAtSeparators hsignal limit)
    · apply TopicMatch.ofText_eq_ofText
      intro topic
      rw [← Topic.matchesText_iff, ← Topic.matchesText_iff]
      exact hsame topic.stopsAtSeparators

/-- A zero width space is a separator: between `Button` and its parenthesis it
hides the construct, in whatever order the texts stand. -/
theorem zero_width_space_keeps_texts_apart :
    let rest := [('\u200b', "(x) TabView"), (';', "Text(y)")]
    let others := [('"', "Button"), ('}', "(x) TabView")]
    (IsSeparator '\u200b' ∧
      FoundInParts ("Button" ++ String.singleton '\u200b' ++ "(x) TabView")
        ["Button", "(x) TabView"]) ∧
    (∀ next ∈ rest, IsSeparator next.1) ∧ (∀ next ∈ others, IsSeparator next.1) ∧
    FoundInParts (joined "Button" rest) ["Button", "(x) TabView", "Text(y)"] ∧
    (Signal.present .buttonInstantiation).holds 100 (joined "Button" rest).toList = false ∧
    (Signal.present .buttonInstantiation).holds 100 (joined "Text(y)" others).toList = false ∧
    TopicMatch.ofText (joined "Button" rest) = TopicMatch.ofText (joined "Text(y)" others) := by
  intro rest others
  have hspace : IsSeparator '\u200b' := by decide +kernel
  have hrest : ∀ next ∈ rest, IsSeparator next.1 := by decide +kernel
  have hothers : ∀ next ∈ others, IsSeparator next.1 := by decide +kernel
  have hperm : ("Button" :: rest.map Prod.snd).Perm ("Text(y)" :: others.map Prod.snd) := by
    decide +kernel
  have hfound : (Signal.present .buttonInstantiation).holds 100 (joined "Button" rest).toList =
      false := by decide +kernel
  obtain ⟨htwo, hmany, horder⟩ := separators_keep_texts_apart
  obtain ⟨hsignals, htopics⟩ := horder "Button" "Text(y)" rest others hrest hothers hperm
  have hsame := hsignals (.present .buttonInstantiation) (by decide) 100
  exact ⟨⟨hspace, htwo _ _ _ hspace⟩, hrest, hothers, hmany "Button" rest hrest, hfound,
    hsame ▸ hfound, htopics⟩

end ViewAudit
