import ViewAudit.Proofs.Text.Blank

/-!
The layout of a text: how long its runs of blanks are and what they consist of.
Two texts have the same layout form if they differ in nothing else, and then
they go on alike from every character that is not a blank.
-/

namespace ViewAudit

/-- A text with one space for every run of blanks; `within` says whether the
text goes on within a run that has its space already. -/
def collapseFrom : (within : Bool) → List Char → List Char
  | _, [] => []
  | within, c :: rest =>
      if isBlank c then (if within then [] else [' ']) ++ collapseFrom true rest
      else c :: collapseFrom false rest

/-- A text with one space for every maximal run of blanks, and none at its
ends. -/
def layoutForm (text : List Char) : List Char := trim (collapseFrom false text)

example : layoutForm "\tImage \n (x)\u00a0".toList = "Image (x)".toList := by decide +kernel

/-- Texts that go on with the same characters, between which runs of blanks may
differ. A run stands in both texts or in neither, except at the end. -/
inductive Alike : List Char → List Char → Prop where
  | last {first second : List Char} (hfirst : IsBlankRun first) (hsecond : IsBlankRun second) :
      Alike first second
  | char {c : Char} {first second : List Char} (hc : isBlank c = false)
      (hrest : Alike first second) : Alike (c :: first) (c :: second)
  | blanks {run other first second : List Char} (hrun : IsBlankRun run) (hne : run ≠ [])
      (hother : IsBlankRun other) (hother_ne : other ≠ []) (hrest : Alike first second) :
      Alike (run ++ first) (other ++ second)

/-- Texts that are alike but for the blanks in front. -/
def LayoutAlike (first second : List Char) : Prop :=
  ∃ run other first' second', IsBlankRun run ∧ IsBlankRun other ∧ first = run ++ first' ∧
    second = other ++ second' ∧ Alike first' second'

namespace Alike

theorem symm {first second : List Char} (h : Alike first second) : Alike second first := by
  induction h with
  | last hfirst hsecond => exact last hsecond hfirst
  | char hc _ ih => exact char hc ih
  | blanks hrun hne hother hother_ne _ ih => exact blanks hother hother_ne hrun hne ih

/-- Both texts may go on after the same character, blank or not. -/
theorem cons (c : Char) {first second : List Char} (h : Alike first second) :
    Alike (c :: first) (c :: second) := by
  cases hc : isBlank c with
  | false => exact char hc h
  | true =>
      have hrun : IsBlankRun [c] := by simp [IsBlankRun, hc]
      show Alike ([c] ++ first) ([c] ++ second)
      exact blanks hrun (by simp) hrun (by simp) h

theorem refl (text : List Char) : Alike text text := by
  induction text with
  | nil => exact last isBlankRun_nil isBlankRun_nil
  | cons c rest ih => exact cons c ih

theorem layoutAlike {first second : List Char} (h : Alike first second) :
    LayoutAlike first second :=
  ⟨[], [], first, second, isBlankRun_nil, isBlankRun_nil, rfl, rfl, h⟩

theorem append_left (word : List Char) {first second : List Char} (h : Alike first second) :
    Alike (word ++ first) (word ++ second) := by
  induction word with
  | nil => exact h
  | cons c word ih => exact cons c ih

/-- After a word without blanks the texts are alike again. -/
theorem of_append_left {word first text : List Char} (hword : ∀ c ∈ word, isBlank c = false)
    (h : Alike (word ++ first) text) : ∃ second, text = word ++ second ∧ Alike first second := by
  induction word generalizing text with
  | nil => exact ⟨text, rfl, h⟩
  | cons c word ih =>
      have hc := hword c List.mem_cons_self
      generalize htext : c :: word ++ first = whole at h
      cases h with
      | last hfirst _ =>
          rw [← htext] at hfirst
          simp [(isBlankRun_cons.mp hfirst).1] at hc
      | char _ hrest =>
          obtain ⟨rfl, rfl⟩ := List.cons.inj htext
          have hmore := fun d hd => hword d (List.mem_cons_of_mem _ hd)
          obtain ⟨second, rfl, hsecond⟩ := ih hmore hrest
          exact ⟨second, rfl, hsecond⟩
      | blanks hrun hne _ _ _ =>
          obtain ⟨b, run, rfl⟩ := List.exists_cons_of_ne_nil hne
          obtain ⟨rfl, -⟩ := List.cons.inj htext
          simp [(isBlankRun_cons.mp hrun).1] at hc

/-- Lower case keeps texts alike: blanks stay as they are, and nothing else
becomes one. -/
theorem lowerText {first second : List Char} (h : Alike first second) :
    Alike (lowerText first) (lowerText second) := by
  induction h with
  | last hfirst hsecond =>
      rw [lowerText_of_isBlankRun hfirst, lowerText_of_isBlankRun hsecond]
      exact last hfirst hsecond
  | char hc _ ih =>
      rw [lowerText_cons, lowerText_cons]
      exact ih.append_left _
  | blanks hrun hne hother hother_ne _ ih =>
      rw [lowerText_append, lowerText_append, lowerText_of_isBlankRun hrun,
        lowerText_of_isBlankRun hother]
      exact blanks hrun hne hother hother_ne ih

end Alike

namespace LayoutAlike

theorem symm {first second : List Char} (h : LayoutAlike first second) :
    LayoutAlike second first := by
  obtain ⟨run, other, first', second', hrun, hother, hfirst, hsecond, halike⟩ := h
  exact ⟨other, run, second', first', hother, hrun, hsecond, hfirst, halike.symm⟩

theorem lowerText {first second : List Char} (h : LayoutAlike first second) :
    LayoutAlike (lowerText first) (lowerText second) := by
  obtain ⟨run, other, first', second', hrun, hother, rfl, rfl, halike⟩ := h
  refine ⟨run, other, ViewAudit.lowerText first', ViewAudit.lowerText second', hrun, hother,
    ?_, ?_, halike.lowerText⟩
  · rw [lowerText_append, lowerText_of_isBlankRun hrun]
  · rw [lowerText_append, lowerText_of_isBlankRun hother]

end LayoutAlike

/-! ## The layout form -/

/-- The two states of collapsing at once: from without, the texts are alike; from
within a run, they are after the rest of the run. -/
private theorem alike_collapseFrom_aux (text : List Char) :
    Alike text (collapseFrom false text) ∧
      ∃ run rest, IsBlankRun run ∧ text = run ++ rest ∧
        Alike rest (collapseFrom true text) := by
  induction text with
  | nil =>
      have hnil : Alike [] [] := .last isBlankRun_nil isBlankRun_nil
      exact ⟨hnil, [], [], isBlankRun_nil, rfl, hnil⟩
  | cons c text ih =>
      obtain ⟨houtside, run, rest, hrun, rfl, hwithin⟩ := ih
      cases hc : isBlank c with
      | false =>
          have hchar := Alike.char hc houtside
          simp only [collapseFrom, hc, Bool.false_eq_true, ↓reduceIte]
          exact ⟨hchar, [], _, isBlankRun_nil, rfl, hchar⟩
      | true =>
          have hlonger : IsBlankRun (c :: run) := isBlankRun_cons.mpr ⟨hc, hrun⟩
          simp only [collapseFrom, hc, ↓reduceIte, List.nil_append]
          -- From without the blank stands for its whole run, from within it is dropped.
          refine ⟨?_, c :: run, rest, hlonger, rfl, hwithin⟩
          show Alike (c :: run ++ rest) ([' '] ++ collapseFrom true (run ++ rest))
          exact .blanks hlonger (by simp) (by decide) (by simp) hwithin

theorem alike_collapseFrom (text : List Char) : Alike text (collapseFrom false text) :=
  (alike_collapseFrom_aux text).1

theorem layoutAlike_trimStart (text : List Char) : LayoutAlike text (trimStart text) := by
  obtain ⟨run, hrun, heq⟩ := exists_append_trimStart text
  exact ⟨run, [], _, _, hrun, isBlankRun_nil, heq, rfl, Alike.refl _⟩

theorem alike_trimEnd (text : List Char) : Alike text (trimEnd text) := by
  obtain ⟨blanks, hblanks, heq⟩ := exists_append_trimEnd text
  have hblank : Alike blanks [] := .last hblanks isBlankRun_nil
  have hkept : Alike (trimEnd text ++ blanks) (trimEnd text ++ []) := hblank.append_left _
  rwa [← heq, List.append_nil] at hkept

/-- What two texts that are alike have in common, texts of one layout form have
in common. -/
theorem eq_of_layoutForm_eq {α : Type} {f : List Char → α}
    (hf : ∀ first second, LayoutAlike first second → f first = f second)
    {first second : List Char} (h : layoutForm first = layoutForm second) :
    f first = f second := by
  have hform (text : List Char) : f text = f (layoutForm text) :=
    calc f text = f (collapseFrom false text) := hf _ _ (alike_collapseFrom text).layoutAlike
      _ = f (trimStart (collapseFrom false text)) := hf _ _ (layoutAlike_trimStart _)
      _ = f (layoutForm text) := hf _ _ (alike_trimEnd _).layoutAlike
  rw [hform first, hform second, h]

end ViewAudit
