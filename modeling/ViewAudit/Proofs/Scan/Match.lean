import ViewAudit.Proofs.Text.Blank
import ViewAudit.Scan.Pattern

/-!
What a pattern matches, said by the parts of a text instead of by the places
that a search visits. A pattern occurs in a text exactly if the text splits into
what stands before a match, the match and what stands after it, where the match
is made up of what the steps of one sequence take.
-/

namespace ViewAudit

/-- The character before a place that lies after `taken`, if the one before
`taken` is `before`. -/
def charBefore (before : Option Char) (taken : List Char) : Option Char :=
  taken.getLast?.or before

@[simp]
theorem charBefore_nil (before : Option Char) : charBefore before [] = before := rfl

@[simp]
theorem charBefore_cons (before : Option Char) (c : Char) (rest : List Char) :
    charBefore before (c :: rest) = charBefore (some c) rest := by
  cases rest <;> simp [charBefore, List.getLast?_cons]

theorem charBefore_append (before : Option Char) (taken more : List Char) :
    charBefore before (taken ++ more) = charBefore (charBefore before taken) more := by
  simp [charBefore, List.getLast?_append, Option.or_assoc]

theorem charBefore_none (text : List Char) : charBefore none text = text.getLast? :=
  Option.or_none

/-- Whether a word begins or ends between a character and a text. -/
def EdgeBetween (before : Option Char) (after : List Char) : Prop :=
  (Place.mk before after).isEdge = true

/-- A text after which a word may begin: it does not end within one. -/
def EndsOutsideWord (text : List Char) : Prop := text.getLast?.any isWordChar = false

/-- A text before which a word may end: it does not begin within one. -/
def BeginsOutsideWord (text : List Char) : Prop := text.head?.any isWordChar = false

instance (text : List Char) : Decidable (BeginsOutsideWord text) :=
  inferInstanceAs (Decidable (_ = _))

/-- What a step may take of a text, between the character before it and the
text after it. -/
def Piece.Takes (before : Option Char) (taken after : List Char) : Piece → Prop
  | .word text => taken = text.toList
  | .oneOf words => ∃ text ∈ words, taken = text.toList
  | .blanks => IsBlankRun taken
  | .edge => taken = [] ∧ EdgeBetween before after

/-- What steps in a row may take of a text. -/
def TakesAll (before : Option Char) (taken after : List Char) : List Piece → Prop
  | [] => taken = []
  | piece :: rest =>
      ∃ first more, taken = first ++ more ∧ piece.Takes before first (more ++ after) ∧
        TakesAll (charBefore before first) more after rest

@[simp]
theorem takesAll_nil {before : Option Char} {taken after : List Char} :
    TakesAll before taken after [] ↔ taken = [] := Iff.rfl

theorem takesAll_cons {before : Option Char} {taken after : List Char} {piece : Piece}
    {rest : List Piece} :
    TakesAll before taken after (piece :: rest) ↔
      ∃ first more, taken = first ++ more ∧ piece.Takes before first (more ++ after) ∧
        TakesAll (charBefore before first) more after rest := Iff.rfl

@[simp]
theorem takesAll_word_cons {before : Option Char} {taken after : List Char} {text : String}
    {rest : List Piece} :
    TakesAll before taken after (.word text :: rest) ↔
      ∃ more, taken = text.toList ++ more ∧
        TakesAll (charBefore before text.toList) more after rest := by
  rw [takesAll_cons]
  constructor
  · rintro ⟨_, more, rfl, rfl, hrest⟩
    exact ⟨more, rfl, hrest⟩
  · rintro ⟨more, rfl, hrest⟩
    exact ⟨_, more, rfl, rfl, hrest⟩

@[simp]
theorem takesAll_oneOf_cons {before : Option Char} {taken after : List Char}
    {words : List String} {rest : List Piece} :
    TakesAll before taken after (.oneOf words :: rest) ↔
      ∃ text ∈ words, TakesAll before taken after (.word text :: rest) := by
  rw [takesAll_cons]
  simp only [takesAll_word_cons, Piece.Takes]
  constructor
  · rintro ⟨_, more, rfl, ⟨text, hmem, rfl⟩, hrest⟩
    exact ⟨text, hmem, more, rfl, hrest⟩
  · rintro ⟨text, hmem, more, rfl, hrest⟩
    exact ⟨_, more, rfl, ⟨text, hmem, rfl⟩, hrest⟩

@[simp]
theorem takesAll_blanks_cons {before : Option Char} {taken after : List Char}
    {rest : List Piece} :
    TakesAll before taken after (.blanks :: rest) ↔
      ∃ blanks more, taken = blanks ++ more ∧ IsBlankRun blanks ∧
        TakesAll (charBefore before blanks) more after rest := Iff.rfl

@[simp]
theorem takesAll_edge_cons {before : Option Char} {taken after : List Char}
    {rest : List Piece} :
    TakesAll before taken after (.edge :: rest) ↔
      EdgeBetween before (taken ++ after) ∧ TakesAll before taken after rest := by
  rw [takesAll_cons]
  constructor
  · rintro ⟨_, more, rfl, ⟨rfl, hedge⟩, hrest⟩
    exact ⟨hedge, hrest⟩
  · rintro ⟨hedge, hrest⟩
    exact ⟨[], taken, rfl, ⟨rfl, hedge⟩, hrest⟩

/-- Before a character of a word there is an edge unless another one precedes it. -/
theorem edgeBetween_iff_of_head {before : Option Char} {text : List Char}
    (h : text.head?.any isWordChar = true) :
    EdgeBetween before text ↔ before.any isWordChar = false := by
  simp [EdgeBetween, Place.isEdge, h]

/-- After a character of a word there is an edge unless another one follows it. -/
theorem edgeBetween_iff_of_before {before : Option Char} {after : List Char}
    (h : before.any isWordChar = true) :
    EdgeBetween before after ↔ BeginsOutsideWord after := by
  simp [EdgeBetween, Place.isEdge, BeginsOutsideWord, h]

/-- The place `last` lies after `taken`, and that after `place`. -/
def Place.Reaches (place : Place) (taken : List Char) (last : Place) : Prop :=
  place.after = taken ++ last.after ∧ last.before = charBefore place.before taken

theorem Place.skip?_eq_some_iff {place last : Place} {word : List Char} :
    place.skip? word = some last ↔ place.Reaches word last := by
  induction word generalizing place with
  | nil =>
      obtain ⟨before, after⟩ := place
      obtain ⟨before', after'⟩ := last
      simp [Place.skip?, Place.Reaches, and_comm, eq_comm]
  | cons c word ih =>
      obtain ⟨before, after⟩ := place
      cases after with
      | nil => simp [Place.skip?, Place.Reaches]
      | cons d rest =>
          by_cases hcd : c = d
          · subst hcd
            simp [Place.skip?, Place.Reaches, ih]
          · simp [Place.skip?, Place.Reaches, hcd, eq_comm]

theorem mem_placesInBlanks {before : Option Char} {text : List Char} {last : Place} :
    last ∈ placesInBlanks before text ↔
      ∃ taken, (Place.mk before text).Reaches taken last ∧ IsBlankRun taken := by
  induction text generalizing before with
  | nil =>
      simp only [placesInBlanks, List.mem_singleton]
      constructor
      · rintro rfl
        exact ⟨[], ⟨rfl, rfl⟩, by simp [IsBlankRun]⟩
      · rintro ⟨taken, ⟨htext, hbefore⟩, -⟩
        obtain ⟨rfl, hafter⟩ := List.append_eq_nil_iff.mp htext.symm
        obtain ⟨before', after'⟩ := last
        simp_all
  | cons c rest ih =>
      obtain ⟨before', after'⟩ := last
      simp only [placesInBlanks, List.mem_cons]
      constructor
      · rintro (hhere | hlater)
        · cases hhere
          exact ⟨[], ⟨rfl, rfl⟩, by simp [IsBlankRun]⟩
        · split at hlater
          case isTrue hc =>
            obtain ⟨taken, ⟨htext, hbefore⟩, hblank⟩ := ih.mp hlater
            refine ⟨c :: taken, ⟨?_, ?_⟩, ?_⟩
            · simpa using htext
            · simpa using hbefore
            · simpa [IsBlankRun, hc] using hblank
          case isFalse => cases hlater
      · rintro ⟨taken, ⟨htext, hbefore⟩, hblank⟩
        cases taken with
        | nil => exact Or.inl (by simp_all)
        | cons d taken =>
            obtain ⟨rfl, rfl⟩ : c = d ∧ rest = taken ++ after' := by simpa using htext
            have hc : isBlank c = true := hblank c List.mem_cons_self
            refine Or.inr ?_
            rw [if_pos hc]
            exact ih.mpr ⟨taken, ⟨rfl, by simpa using hbefore⟩,
              fun x hx => hblank x (List.mem_cons_of_mem _ hx)⟩

/-- A step ends exactly after what it may take. -/
theorem Piece.mem_ends {piece : Piece} {place last : Place} :
    last ∈ piece.ends place ↔
      ∃ taken, place.Reaches taken last ∧ piece.Takes place.before taken last.after := by
  cases piece with
  | word text =>
      simp [Piece.ends, Piece.Takes, Option.mem_toList, Place.skip?_eq_some_iff]
  | oneOf words =>
      simp only [Piece.ends, Piece.Takes, List.mem_filterMap, Place.skip?_eq_some_iff]
      constructor
      · rintro ⟨text, hmem, h⟩
        exact ⟨_, h, text, hmem, rfl⟩
      · rintro ⟨_, h, text, hmem, rfl⟩
        exact ⟨text, hmem, h⟩
  | blanks => exact mem_placesInBlanks
  | edge =>
      obtain ⟨before, after⟩ := place
      obtain ⟨before', after'⟩ := last
      simp only [Piece.ends, Piece.Takes, EdgeBetween]
      constructor
      · intro h
        split at h
        case isTrue hedge =>
          cases List.mem_singleton.mp h
          exact ⟨[], ⟨rfl, rfl⟩, rfl, hedge⟩
        case isFalse => cases h
      · rintro ⟨_, ⟨hafter, hbefore⟩, rfl, hedge⟩
        obtain rfl : after = after' := hafter
        obtain rfl : before' = before := hbefore
        simp [hedge]

theorem mem_endsOf {pieces : List Piece} {place last : Place} :
    last ∈ endsOf pieces place ↔
      ∃ taken, place.Reaches taken last ∧ TakesAll place.before taken last.after pieces := by
  induction pieces generalizing place with
  | nil =>
      obtain ⟨before, after⟩ := place
      obtain ⟨before', after'⟩ := last
      simp [endsOf, TakesAll, Place.Reaches, and_comm, eq_comm]
  | cons piece rest ih =>
      simp only [endsOf, List.mem_flatMap, Piece.mem_ends, ih, TakesAll]
      constructor
      · rintro ⟨middle, ⟨first, ⟨hafter, hbefore⟩, hfirst⟩, more, ⟨hafter', hbefore'⟩, hmore⟩
        rw [hafter'] at hfirst hafter
        rw [hbefore] at hbefore' hmore
        refine ⟨first ++ more, ⟨?_, ?_⟩, first, more, rfl, hfirst, hmore⟩
        · rw [hafter, List.append_assoc]
        · rw [hbefore', charBefore_append]
      · rintro ⟨_, ⟨hafter, hbefore⟩, first, more, rfl, hfirst, hmore⟩
        refine ⟨⟨charBefore place.before first, more ++ last.after⟩,
          ⟨first, ⟨?_, rfl⟩, hfirst⟩, more, ⟨rfl, ?_⟩, hmore⟩
        · rw [hafter, List.append_assoc]
        · rw [hbefore, charBefore_append]

theorem Pattern.startsAt_iff {pattern : Pattern} {place : Place} :
    pattern.startsAt place = true ↔
      ∃ pieces ∈ pattern, ∃ taken after,
        place.after = taken ++ after ∧ TakesAll place.before taken after pieces := by
  have hends (pieces : List Piece) : (!(endsOf pieces place).isEmpty) = true ↔
      ∃ taken after, place.after = taken ++ after ∧ TakesAll place.before taken after pieces := by
    rw [Bool.not_eq_true', List.isEmpty_eq_false_iff_exists_mem]
    constructor
    · rintro ⟨last, h⟩
      obtain ⟨taken, ⟨hafter, -⟩, htakes⟩ := mem_endsOf.mp h
      exact ⟨taken, last.after, hafter, htakes⟩
    · rintro ⟨taken, after, hafter, htakes⟩
      exact ⟨⟨charBefore place.before taken, after⟩,
        mem_endsOf.mpr ⟨taken, ⟨hafter, rfl⟩, htakes⟩⟩
  simp only [Pattern.startsAt, List.any_eq_true, hends]

theorem Pattern.occursFrom_iff {pattern : Pattern} {before : Option Char} {text : List Char} :
    pattern.occursFrom before text = true ↔
      ∃ front rest, text = front ++ rest ∧
        pattern.startsAt ⟨charBefore before front, rest⟩ = true := by
  induction text generalizing before with
  | nil =>
      rw [Pattern.occursFrom]
      constructor
      · intro h
        exact ⟨[], [], rfl, h⟩
      · rintro ⟨front, rest, htext, h⟩
        obtain ⟨rfl, rfl⟩ := List.append_eq_nil_iff.mp htext.symm
        exact h
  | cons c text ih =>
      rw [Pattern.occursFrom, Bool.or_eq_true, ih]
      constructor
      · rintro (h | ⟨front, rest, rfl, h⟩)
        · exact ⟨[], c :: text, rfl, h⟩
        · exact ⟨c :: front, rest, rfl, by rwa [charBefore_cons]⟩
      · rintro ⟨front, rest, htext, h⟩
        cases front with
        | nil =>
            obtain rfl : rest = c :: text := htext.symm
            exact Or.inl h
        | cons d front =>
            obtain ⟨rfl, rfl⟩ := List.cons.inj htext
            rw [charBefore_cons] at h
            exact Or.inr ⟨front, rest, rfl, h⟩

/-- A pattern occurs in a text exactly if the text has a part that one of its
sequences takes. -/
theorem Pattern.occurs_iff {pattern : Pattern} {text : List Char} :
    pattern.occurs text = true ↔
      ∃ pieces ∈ pattern, ∃ before part after,
        text = before ++ part ++ after ∧ TakesAll before.getLast? part after pieces := by
  simp only [Pattern.occurs, Pattern.occursFrom_iff, Pattern.startsAt_iff, charBefore_none]
  constructor
  · rintro ⟨before, rest, rfl, pieces, hmem, part, after, rfl, htakes⟩
    exact ⟨pieces, hmem, before, part, after, (List.append_assoc ..).symm, htakes⟩
  · rintro ⟨pieces, hmem, before, part, after, rfl, htakes⟩
    exact ⟨before, part ++ after, List.append_assoc .., pieces, hmem, part, after, rfl, htakes⟩

/-- An alternative occurs, or one of the others does. -/
theorem Pattern.occurs_cons_iff {pieces : List Piece} {others : Pattern} {text : List Char} :
    Pattern.occurs (pieces :: others) text = true ↔
      Pattern.occurs [pieces] text = true ∨ Pattern.occurs others text = true := by
  simp only [Pattern.occurs_iff, List.mem_cons, List.not_mem_nil, or_false, exists_eq_left,
    or_and_right, exists_or]

/-! ## Surroundings -/

theorem any_charBefore_congr {before other : Option Char}
    (h : before.any isWordChar = other.any isWordChar) (taken : List Char) :
    (charBefore before taken).any isWordChar = (charBefore other taken).any isWordChar := by
  cases taken with
  | nil => exact h
  | cons c rest => rw [charBefore_cons, charBefore_cons]

/-- Of what stands around a match, only edges depend on anything, and only on
whether a word goes on there. -/
theorem TakesAll.congr {pieces : List Piece} {before before' : Option Char}
    {taken after after' : List Char}
    (hsame : Piece.edge ∈ pieces → before.any isWordChar = before'.any isWordChar ∧
      after.head?.any isWordChar = after'.head?.any isWordChar)
    (h : TakesAll before taken after pieces) : TakesAll before' taken after' pieces := by
  induction pieces generalizing before before' taken with
  | nil => exact h
  | cons piece rest ih =>
      obtain ⟨first, more, rfl, hfirst, hmore⟩ := takesAll_cons.mp h
      refine takesAll_cons.mpr ⟨first, more, rfl, ?_, ih (fun hedge => ?_) hmore⟩
      · cases piece with
        | word text => exact hfirst
        | oneOf words => exact hfirst
        | blanks => exact hfirst
        | edge =>
            obtain ⟨hbefore, hafter⟩ := hsame List.mem_cons_self
            obtain ⟨rfl, hedge⟩ := hfirst
            have hhead : (more ++ after).head?.any isWordChar =
                (more ++ after').head?.any isWordChar := by
              cases more with
              | nil => exact hafter
              | cons c more => rfl
            refine ⟨rfl, ?_⟩
            simpa only [EdgeBetween, Place.isEdge, hbefore, hhead] using hedge
      · obtain ⟨hbefore, hafter⟩ := hsame (List.mem_cons_of_mem _ hedge)
        exact ⟨any_charBefore_congr hbefore first, hafter⟩

/-- A pattern without edges occurs in a text if it occurs in a part of it. -/
theorem Pattern.occurs_of_isInfix {pattern : Pattern}
    (hpattern : ∀ pieces ∈ pattern, Piece.edge ∉ pieces) {part text : List Char}
    (hpart : part <:+: text) (h : pattern.occurs part = true) : pattern.occurs text = true := by
  obtain ⟨front, back, rfl⟩ := hpart
  obtain ⟨pieces, hmem, before, found, after, rfl, htakes⟩ := Pattern.occurs_iff.mp h
  refine Pattern.occurs_iff.mpr ⟨pieces, hmem, front ++ before, found, after ++ back, ?_, ?_⟩
  · simp only [List.append_assoc]
  · exact htakes.congr fun hedge => absurd hedge (hpattern pieces hmem)

end ViewAudit
