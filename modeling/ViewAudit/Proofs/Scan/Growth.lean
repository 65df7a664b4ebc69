import ViewAudit.Proofs.Scan.Match
import ViewAudit.Proofs.Text.Search
import ViewAudit.Scan.Check

/-!
Scans of a text that grows at its end. What a signal finds in a text it finds
in every longer one too, so a check that has been satisfied stays satisfied.
Only the edge at the end of a whole word can be lost, to a chunk that goes on
with the word.
-/

namespace ViewAudit

/-! ## Patterns -/

/-- Whether steps begin with a word, so that they look at a character that they
take themselves. -/
def opensWithWord : List Piece → Bool
  | .word text :: _ => !text.toList.isEmpty
  | _ => false

/-- Whether no step looks beyond what is taken: a word follows on every edge. -/
def isSettled : List Piece → Bool
  | [] => true
  | .edge :: rest => opensWithWord rest && isSettled rest
  | _ :: rest => isSettled rest

theorem ne_nil_of_opensWithWord {pieces : List Piece} (hopens : opensWithWord pieces = true)
    {before : Option Char} {taken after : List Char}
    (h : TakesAll before taken after pieces) : taken ≠ [] := by
  unfold opensWithWord at hopens
  split at hopens
  · obtain ⟨more, rfl, -⟩ := takesAll_word_cons.mp h
    simp_all
  · cases hopens

/-- More text keeps an edge that has text after it, or that lies before text
which does not go on with a word. -/
theorem edgeBetween_append {before : Option Char} {text more : List Char}
    (h : text ≠ [] ∨ BeginsOutsideWord more) :
    EdgeBetween before (text ++ more) ↔ EdgeBetween before text := by
  cases text with
  | nil =>
      have hmore : BeginsOutsideWord more := h.resolve_left (by simp)
      rw [BeginsOutsideWord] at hmore
      simp [EdgeBetween, Place.isEdge, hmore]
  | cons c rest => rfl

theorem TakesAll.append {pieces : List Piece} {more : List Char}
    (hmore : isSettled pieces = true ∨ BeginsOutsideWord more) {before : Option Char}
    {taken after : List Char} (h : TakesAll before taken after pieces) :
    TakesAll before taken (after ++ more) pieces := by
  induction pieces generalizing before taken with
  | nil => exact h
  | cons piece rest ih =>
      have hrest : isSettled rest = true ∨ BeginsOutsideWord more := by
        refine hmore.imp_left fun hsettled => ?_
        cases piece with
        | edge => exact (Bool.and_eq_true_iff.mp hsettled).2
        | _ => exact hsettled
      obtain ⟨first, left, rfl, hfirst, hleft⟩ := takesAll_cons.mp h
      refine takesAll_cons.mpr ⟨first, left, rfl, ?_, ih hrest hleft⟩
      cases piece with
      | word text => exact hfirst
      | oneOf words => exact hfirst
      | blanks => exact hfirst
      | edge =>
          obtain ⟨rfl, hedge⟩ := hfirst
          refine ⟨rfl, ?_⟩
          rw [← List.append_assoc]
          refine (edgeBetween_append (hmore.imp_left fun hsettled => ?_)).mpr hedge
          have hne := ne_nil_of_opensWithWord (Bool.and_eq_true_iff.mp hsettled).1 hleft
          simp [hne]

theorem Pattern.occurs_append {pattern : Pattern} {text more : List Char}
    (hmore : pattern.all isSettled = true ∨ BeginsOutsideWord more)
    (h : pattern.occurs text = true) : pattern.occurs (text ++ more) = true := by
  obtain ⟨pieces, hmem, before, part, after, rfl, htakes⟩ := Pattern.occurs_iff.mp h
  refine Pattern.occurs_iff.mpr ⟨pieces, hmem, before, part, after ++ more, ?_, ?_⟩
  · simp only [List.append_assoc]
  · exact htakes.append (hmore.imp_left fun hall => List.all_eq_true.mp hall pieces hmem)

/-- Every construct but the whole words of shapes is kept by any text after it. -/
theorem Construct.isSettled_pattern {construct : Construct} (h : construct ≠ .shapeOrIcon) :
    construct.pattern.all isSettled = true := by
  cases construct <;> first | contradiction | decide

/-! ## Signals and checks -/

/-- A signal that holds of a text holds of a longer one. -/
theorem Signal.holds_append {signal : Signal} {limit : Nat} {text more : List Char}
    (hmore : signal = .present .shapeOrIcon → BeginsOutsideWord more)
    (h : signal.holds limit text = true) : signal.holds limit (text ++ more) = true := by
  cases signal with
  | present construct =>
      refine Pattern.occurs_append ?_ h
      by_cases hshape : construct = .shapeOrIcon
      · exact Or.inr (hmore (by rw [hshape]))
      · exact Or.inl (Construct.isSettled_pattern hshape)
  | mentionsAccessibility =>
      rw [Signal.holds, lowerText_append]
      exact occursIn_append _ h
  | usesColor =>
      obtain ⟨word, hmem, hword⟩ := List.any_eq_true.mp h
      exact List.any_eq_true.mpr ⟨word, hmem, occursIn_append more hword⟩
  | exceedsFragmentLength =>
      simp only [Signal.holds, decide_eq_true_eq, List.length_append] at h ⊢
      omega

/-- No signal holds of an empty text. -/
theorem Signal.holds_nil (signal : Signal) (limit : Nat) : signal.holds limit [] = false := by
  cases signal with
  | present construct => cases construct <;> rfl
  | mentionsAccessibility => rfl
  | usesColor => rfl
  | exceedsFragmentLength => simp [Signal.holds]

theorem Check.code_injective {check other : Check} (h : check.code = other.code) :
    check = other := by
  revert h
  cases check <;> cases other <;> decide

/-- Among the codes of some checks that fire, a check is found by its own code. -/
theorem Check.code_mem_iff {check : Check} {checks : List Check} (hmem : check ∈ checks)
    {limit : Nat} {text : List Char} :
    check.code ∈ ((checks.filter (·.fires limit text)).map Check.finding).map Finding.code ↔
      check.fires limit text = true := by
  rw [List.map_map, List.mem_map]
  constructor
  · rintro ⟨other, hother, hcode⟩
    have hsame : other = check := Check.code_injective hcode
    rw [← hsame]
    exact (List.mem_filter.mp hother).2
  · intro hfires
    exact ⟨check, List.mem_filter.mpr ⟨hmem, hfires⟩, rfl⟩

/-! ## Runs -/

/-- The text after the first `count` chunks of a run. -/
def textAfter (chunks : List String) (count : Nat) : String := String.join (chunks.take count)

/-- The codes of the findings that all checks together have after the first
`count` chunks. -/
def codesAfter (limit : Nat) (chunks : List String) (count : Nat) : List String :=
  ((Check.firing limit (textAfter chunks count).toList).map Check.finding).map Finding.code

theorem code_mem_codesAfter_iff {limit : Nat} {chunks : List String} {count : Nat}
    {check : Check} :
    check.code ∈ codesAfter limit chunks count ↔
      check.fires limit (textAfter chunks count).toList = true :=
  Check.code_mem_iff check.mem_all

theorem toList_textAfter_succ (chunks : List String) (count : Nat) :
    (textAfter chunks (count + 1)).toList =
      (textAfter chunks count).toList ++ (chunks[count]?.getD "").toList := by
  rw [textAfter, List.take_add_one, String.join_append, String.toList_append]
  cases chunks[count]? <;> simp [textAfter]

/-- Whether every chunk but the first leaves the words before it as they are. -/
def KeepsWords (chunks : List String) : Prop :=
  ∀ chunk ∈ chunks.tail, BeginsOutsideWord chunk.toList

instance (chunks : List String) : Decidable (KeepsWords chunks) :=
  List.decidableBAll (fun chunk : String => BeginsOutsideWord chunk.toList) chunks.tail

/-- A chunk that is read after another one is one of those that must keep words. -/
theorem KeepsWords.beginsOutsideWord {chunks : List String} (h : KeepsWords chunks)
    {count : Nat} (hcount : count ≠ 0) : BeginsOutsideWord (chunks[count]?.getD "").toList := by
  cases hchunk : chunks[count]? with
  | none => simp [BeginsOutsideWord]
  | some chunk =>
      apply h chunk
      obtain ⟨before, rfl⟩ := Nat.exists_eq_succ_of_ne_zero hcount
      rw [← List.getElem?_tail] at hchunk
      exact List.mem_of_getElem? hchunk

/-- One more chunk keeps a signal. -/
theorem holds_textAfter_succ {signal : Signal} {limit : Nat} {chunks : List String}
    (hchunks : signal = .present .shapeOrIcon → KeepsWords chunks) {count : Nat}
    (h : signal.holds limit (textAfter chunks count).toList = true) :
    signal.holds limit (textAfter chunks (count + 1)).toList = true := by
  rw [toList_textAfter_succ]
  refine Signal.holds_append (fun hsignal => (hchunks hsignal).beginsOutsideWord ?_) h
  rintro rfl
  simp [textAfter, Signal.holds_nil] at h

/-- A signal that holds once in a run holds from then on. -/
theorem holds_textAfter_of_le {signal : Signal} {limit : Nat} {chunks : List String}
    (hchunks : signal = .present .shapeOrIcon → KeepsWords chunks) {count later : Nat}
    (hle : count ≤ later) (h : signal.holds limit (textAfter chunks count).toList = true) :
    signal.holds limit (textAfter chunks later).toList = true := by
  induction hle with
  | refl => exact h
  | step _ ih => exact holds_textAfter_succ hchunks ih

/-- Only the check on colors looks for whole words. -/
theorem Check.eq_colorOnlyInformation {check : Check} {signal : Signal}
    (hmem : signal ∈ check.trigger :: check.suppressors)
    (h : signal = .present .shapeOrIcon) : check = .colorOnlyInformation := by
  subst h
  revert hmem
  cases check <;> decide

theorem Check.fires_eq_true_iff {check : Check} {limit : Nat} {text : List Char} :
    check.fires limit text = true ↔
      check.trigger.holds limit text = true ∧
        ¬ ∃ signal ∈ check.suppressors, signal.holds limit text = true := by
  simp [Check.fires]

/-- What holds from some count on begins at one of the counts up to `last`, or
after them. -/
theorem exists_first {P : Nat → Prop} (hkept : ∀ i j, i ≤ j → P i → P j) (last : Nat) :
    ∃ first, ∀ i ≤ last, P i ↔ first ≤ i := by
  induction last with
  | zero =>
      by_cases h : P 0
      · refine ⟨0, fun i hi => ⟨fun _ => Nat.zero_le i, fun _ => ?_⟩⟩
        exact hkept 0 i (Nat.zero_le i) h
      · refine ⟨1, fun i hi => ?_⟩
        obtain rfl : i = 0 := Nat.le_zero.mp hi
        simp [h]
  | succ last ih =>
      obtain ⟨first, hfirst⟩ := ih
      by_cases hle : first ≤ last
      · refine ⟨first, fun i hi => ?_⟩
        rcases Nat.le_succ_iff.mp hi with hi | rfl
        · exact hfirst i hi
        · have hlast : P last := (hfirst last (Nat.le_refl _)).mpr hle
          exact ⟨fun _ => Nat.le_succ_of_le hle, fun _ => hkept _ _ (Nat.le_succ _) hlast⟩
      · have hnone : ∀ i ≤ last, ¬ P i := by
          intro i hi h
          have := (hfirst i hi).mp h
          omega
        by_cases h : P (last + 1)
        · refine ⟨last + 1, fun i hi => ?_⟩
          rcases Nat.le_succ_iff.mp hi with hi | rfl
          · have := hnone i hi
            simp only [this, false_iff]
            omega
          · simp [h]
        · refine ⟨last + 2, fun i hi => ?_⟩
          rcases Nat.le_succ_iff.mp hi with hi | rfl
          · have := hnone i hi
            simp only [this, false_iff]
            omega
          · simp [h]

/-- While a text grows at its end, a check that reported something and then no
longer did never reports it again: the counts of chunks after which its code is
reported lie between the first ones and the last ones. For the check on colors
the chunks must not go on with a word of an earlier one. -/
theorem fixed_finding_never_returns (limit : Nat) (chunks : List String) (check : Check)
    (hchunks : check = .colorOnlyInformation → KeepsWords chunks) :
    (∀ i j k, i ≤ j → j ≤ k → check.code ∈ codesAfter limit chunks i →
        check.code ∈ codesAfter limit chunks k → check.code ∈ codesAfter limit chunks j) ∧
      ∃ first past, ∀ i ≤ chunks.length,
        check.code ∈ codesAfter limit chunks i ↔ first ≤ i ∧ i < past := by
  let triggered (i : Nat) : Prop :=
    check.trigger.holds limit (textAfter chunks i).toList = true
  let suppressed (i : Nat) : Prop :=
    ∃ signal ∈ check.suppressors, signal.holds limit (textAfter chunks i).toList = true
  -- Trigger and suppressors are both kept once they hold, so the code is reported from
  -- the first time of the one up to the first time of the other.
  have htriggered : ∀ i j, i ≤ j → triggered i → triggered j := by
    intro i j hij h
    refine holds_textAfter_of_le (fun hsignal => hchunks ?_) hij h
    exact Check.eq_colorOnlyInformation List.mem_cons_self hsignal
  have hsuppressed : ∀ i j, i ≤ j → suppressed i → suppressed j := by
    rintro i j hij ⟨signal, hmem, h⟩
    refine ⟨signal, hmem, holds_textAfter_of_le (fun hsignal => hchunks ?_) hij h⟩
    exact Check.eq_colorOnlyInformation (List.mem_cons_of_mem _ hmem) hsignal
  have hcode (i : Nat) :
      check.code ∈ codesAfter limit chunks i ↔ triggered i ∧ ¬ suppressed i := by
    rw [code_mem_codesAfter_iff, Check.fires_eq_true_iff]
  constructor
  · intro i j k hij hjk hi hk
    rw [hcode] at hi hk ⊢
    exact ⟨htriggered i j hij hi.1, fun h => hk.2 (hsuppressed j k hjk h)⟩
  · obtain ⟨first, hfirst⟩ := exists_first htriggered chunks.length
    obtain ⟨past, hpast⟩ := exists_first hsuppressed chunks.length
    refine ⟨first, past, fun i hi => ?_⟩
    rw [hcode, hfirst i hi, hpast i hi, Nat.not_le]

/-- A color is used, then a whole word shows a shape: no later chunk that keeps
the word brings the finding back. -/
theorem color_finding_never_returns :
    let chunks := ["tint(color: .red)", ".fill Circle", "()", " and more"]
    KeepsWords chunks ∧
      Check.colorOnlyInformation.code ∈ codesAfter 100 chunks 1 ∧
      Check.colorOnlyInformation.code ∉ codesAfter 100 chunks 2 ∧
      ∀ k, 2 ≤ k → Check.colorOnlyInformation.code ∉ codesAfter 100 chunks k := by
  intro chunks
  have hkeeps : KeepsWords chunks := by decide +kernel
  have hreported : Check.colorOnlyInformation.code ∈ codesAfter 100 chunks 1 := by
    decide +kernel
  have hfixed : Check.colorOnlyInformation.code ∉ codesAfter 100 chunks 2 := by decide +kernel
  refine ⟨hkeeps, hreported, hfixed, fun k hk hback => hfixed ?_⟩
  exact (fixed_finding_never_returns 100 chunks .colorOnlyInformation fun _ => hkeeps).1
    1 2 k (by decide) hk hreported hback

end ViewAudit
