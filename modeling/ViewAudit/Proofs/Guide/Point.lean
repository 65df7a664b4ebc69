import ViewAudit.Guide.Point
import ViewAudit.Proofs.Text.Trim

/-!
The points of a guide. They are the items among the pieces that the newlines cut
a guide into: a carriage return at the end of a line and an empty piece at the
end of a guide, of which the lines of a text are free, do not show in them. So
points are taken line by line, whatever blanks stand around the lines.
-/

namespace ViewAudit

/-! ## Items -/

/-- A line that begins with a bullet, or with the number of an item and
something after it. -/
inductive IsItem : List Char → Prop where
  | bullet {mark : Char} {rest : List Char} (hmark : mark = '-' ∨ mark = '*' ∨ mark = '•') :
      IsItem (mark :: rest)
  | number {digit mark next : Char} {rest : List Char} (hdigit : '0' ≤ digit ∧ digit ≤ '9')
      (hmark : mark = '.' ∨ mark = ')' ∨ mark = ':') : IsItem (digit :: mark :: next :: rest)

theorem isBullet_iff {c : Char} : isBullet c = true ↔ c = '-' ∨ c = '*' ∨ c = '•' := by
  simp [isBullet]

theorem endsItemNumber_iff {c : Char} : endsItemNumber c = true ↔ c = '.' ∨ c = ')' ∨ c = ':' := by
  simp [endsItemNumber]

theorem isDigit_iff_between {c : Char} : c.isDigit = true ↔ '0' ≤ c ∧ c ≤ '9' := by
  rw [Char.isDigit, Bool.and_eq_true, decide_eq_true_eq, decide_eq_true_eq]
  exact Iff.rfl

theorem isAdvisoryLine_iff {line : List Char} : isAdvisoryLine line = true ↔ IsItem line := by
  constructor
  · intro h
    cases line with
    | nil => cases h
    | cons c rest =>
        rcases Bool.or_eq_true_iff.mp h with hbullet | hnumber
        · exact .bullet (isBullet_iff.mp hbullet)
        · split at hnumber
          · obtain ⟨hdigit, hmark⟩ := Bool.and_eq_true_iff.mp hnumber
            exact .number (isDigit_iff_between.mp hdigit) (endsItemNumber_iff.mp hmark)
          · cases hnumber
  · intro h
    cases h with
    | bullet hmark => exact Bool.or_eq_true_iff.mpr (Or.inl (isBullet_iff.mpr hmark))
    | number hdigit hmark =>
        have hnumber := Bool.and_eq_true_iff.mpr
          ⟨isDigit_iff_between.mpr hdigit, endsItemNumber_iff.mpr hmark⟩
        exact Bool.or_eq_true_iff.mpr (Or.inr hnumber)

instance (line : List Char) : Decidable (IsItem line) := decidable_of_iff _ isAdvisoryLine_iff

/-- The items among some lines, without the blanks around them. -/
def itemsIn (lines : List (List Char)) : List (List Char) :=
  (lines.map trim).filter isAdvisoryLine

theorem itemsIn_append (lines more : List (List Char)) :
    itemsIn (lines ++ more) = itemsIn lines ++ itemsIn more := by
  simp only [itemsIn, List.map_append, List.filter_append]

theorem itemsIn_congr {lines others : List (List Char)} (h : lines.map trim = others.map trim) :
    itemsIn lines = itemsIn others := by
  rw [itemsIn, itemsIn, h]

theorem itemsIn_cons_congr {line other : List Char} {lines others : List (List Char)}
    (hline : trim line = trim other) (hrest : itemsIn lines = itemsIn others) :
    itemsIn (line :: lines) = itemsIn (other :: others) := by
  have hhead : itemsIn [line] = itemsIn [other] := by
    rw [itemsIn, itemsIn, List.map_singleton, List.map_singleton, hline]
  calc itemsIn (line :: lines) = itemsIn [line] ++ itemsIn lines := itemsIn_append [line] lines
    _ = itemsIn [other] ++ itemsIn others := by rw [hhead, hrest]
    _ = itemsIn (other :: others) := (itemsIn_append [other] others).symm

theorem itemsIn_cons_of_isBlankRun {run : List Char} (hrun : IsBlankRun run)
    (lines : List (List Char)) : itemsIn (run :: lines) = itemsIn lines := by
  have hrun' : itemsIn [run] = [] := by
    rw [itemsIn, List.map_singleton, trim_of_isBlankRun hrun]
    rfl
  calc itemsIn (run :: lines) = itemsIn [run] ++ itemsIn lines := itemsIn_append [run] lines
    _ = itemsIn lines := by rw [hrun', List.nil_append]

theorem mem_itemsIn {lines : List (List Char)} {item : List Char} :
    item ∈ itemsIn lines ↔ (∃ line ∈ lines, TrimsTo line item) ∧ isAdvisoryLine item = true := by
  simp only [itemsIn, List.mem_filter, List.mem_map, trim_eq_iff]

/-- Items are the items among themselves. -/
theorem itemsIn_itemsIn (lines : List (List Char)) : itemsIn (itemsIn lines) = itemsIn lines := by
  have htrim : (itemsIn lines).map trim = (itemsIn lines).map id := by
    apply List.map_congr_left
    intro item hitem
    obtain ⟨⟨line, -, htrims⟩, -⟩ := mem_itemsIn.mp hitem
    exact trim_of_isTrimmed htrims.isTrimmed
  rw [itemsIn, htrim, List.map_id]
  apply List.filter_eq_self.mpr
  intro item hitem
  exact (mem_itemsIn.mp hitem).2

/-! ## Lines and pieces -/

theorem not_mem_of_mem_splitOn {mark : Char} {text piece : List Char}
    (h : piece ∈ text.splitOn mark) : mark ∉ piece := by
  induction text generalizing piece with
  | nil =>
      obtain rfl : piece = [] := by simpa using h
      exact List.not_mem_nil
  | cons c rest ih =>
      rw [List.splitOn_cons_eq_if_modifyHead] at h
      split at h
      case isTrue =>
        rcases List.mem_cons.mp h with rfl | hrest
        · exact List.not_mem_nil
        · exact ih hrest
      case isFalse hc =>
        obtain ⟨first, pieces, heq⟩ := List.exists_cons_of_ne_nil (List.splitOn_ne_nil mark rest)
        rw [heq, List.modifyHead_cons] at h
        rw [heq] at ih
        rcases List.mem_cons.mp h with rfl | hlater
        · have hfirst : mark ∉ first := ih List.mem_cons_self
          have hne : mark ≠ c := fun hsame => hc (by rw [hsame]; exact beq_self_eq_true c)
          exact List.not_mem_cons_of_ne_of_not_mem hne hfirst
        · exact ih (List.mem_cons_of_mem _ hlater)

theorem newline_not_mem_of_mem_itemsIn {guide item : List Char}
    (h : item ∈ itemsIn (guide.splitOn '\n')) : '\n' ∉ item := by
  intro hmem
  obtain ⟨⟨line, hline, htrims⟩, -⟩ := mem_itemsIn.mp h
  obtain rfl : trim line = item := trim_eq_iff.mpr htrims
  exact not_mem_of_mem_splitOn hline ((trim_isInfix line).mem hmem)

theorem trim_withoutReturn (line : List Char) : trim (withoutReturn line) = trim line := by
  rw [withoutReturn]
  split
  case isTrue h =>
    obtain ⟨front, rfl⟩ := List.getLast?_eq_some_iff.mp h
    have hreturn : IsBlankRun ['\r'] := by decide
    rw [List.dropLast_concat, trim_append_run front hreturn]
  case isFalse => rfl

/-- The lines of a guide have the same items as the pieces between its newlines. -/
theorem pointsOf_eq (guide : List Char) : pointsOf guide = itemsIn (guide.splitOn '\n') := by
  have hne := List.splitOn_ne_nil '\n' guide
  let pieces := guide.splitOn '\n'
  let last := pieces.getLast hne
  have hlines : linesOf guide =
      pieces.dropLast.map withoutReturn ++ [last].filter (!·.isEmpty) := by
    rw [linesOf, List.getLast?_eq_some_getLast hne, Option.toList_some]
  have hreturns : itemsIn (pieces.dropLast.map withoutReturn) = itemsIn pieces.dropLast := by
    apply itemsIn_congr
    rw [List.map_map]
    exact List.map_congr_left fun line _ => trim_withoutReturn line
  have hlast : itemsIn ([last].filter (!·.isEmpty)) = itemsIn [last] := by
    cases last with
    | nil => rfl
    | cons c rest => rfl
  calc pointsOf guide = itemsIn (linesOf guide) := rfl
    _ = itemsIn pieces.dropLast ++ itemsIn [last] := by
        rw [hlines, itemsIn_append, hreturns, hlast]
    _ = itemsIn pieces := by
        rw [← itemsIn_append, List.dropLast_concat_getLast]

theorem extractPoints_eq (guide : String) :
    extractPoints guide = (itemsIn (guide.toList.splitOn '\n')).map String.ofList := by
  rw [← pointsOf_eq]
  rfl

theorem extractPoints_some (guide : String) (limit : Nat) :
    extractPoints guide (some limit) = (extractPoints guide).take limit := rfl

/-- Every point of a guide is one of its lines, without the blanks around it. -/
theorem point_of_mem_extractPoints {guide point : String} (h : point ∈ extractPoints guide) :
    point ≠ "" ∧ '\n' ∉ point.toList ∧ IsTrimmed point.toList ∧
      isAdvisoryLine point.toList = true := by
  rw [extractPoints_eq, List.mem_map] at h
  obtain ⟨item, hitem, rfl⟩ := h
  obtain ⟨⟨line, -, htrims⟩, hadvisory⟩ := mem_itemsIn.mp hitem
  rw [String.toList_ofList]
  refine ⟨?_, newline_not_mem_of_mem_itemsIn hitem, htrims.isTrimmed, hadvisory⟩
  intro hempty
  rw [String.ofList_eq_empty_iff.mp hempty] at hadvisory
  cases hadvisory

/-- The points of a guide are its advisory lines: what lies between two newlines,
without the blanks around it, if it is an item. They come in the order of the
guide, each as often as it stands there, up to the limit. -/
theorem points_are_advisory_lines (guide : String) :
    (∀ limit, extractPoints guide (some limit) =
      ((((guide.toList.splitOn '\n').map trim).filter IsItem).map String.ofList).take limit) ∧
    (∀ line, TrimsTo line (trim line)) ∧
    (∀ limit, ∀ point ∈ extractPoints guide limit, point ≠ "" ∧ '\n' ∉ point.toList ∧
      IsTrimmed point.toList ∧ isAdvisoryLine point.toList = true) ∧
    (∀ limit longer, limit ≤ longer →
      extractPoints guide (some limit) <+: extractPoints guide (some longer)) ∧
    ∀ limit, extractPoints guide (some limit) <+: extractPoints guide := by
  refine ⟨fun limit => ?_, trimsTo_trim, fun limit point hpoint => ?_, fun limit longer hle => ?_,
    fun limit => ?_⟩
  · rw [extractPoints_some, extractPoints_eq, itemsIn]
    congr 2
    apply List.filter_congr
    intro line _
    rw [Bool.eq_iff_iff, decide_eq_true_eq, isAdvisoryLine_iff]
  · cases limit with
    | none => exact point_of_mem_extractPoints hpoint
    | some limit => exact point_of_mem_extractPoints (List.mem_of_mem_take hpoint)
  · rw [extractPoints_some, extractPoints_some]
    exact List.take_prefix_take_left hle
  · rw [extractPoints_some]
    exact List.take_prefix limit _

/-- Of the numbered lines one has nothing after its number, once the blanks are
off; a carriage return within a line ends nothing. -/
theorem bare_number_is_no_point :
    let guide := "1. \n\u00a0- a\r- b\r\n2) c\r\n\n- a\r- b"
    extractPoints guide (some 2) = ["- a\r- b", "2) c"] ∧
      ("2) c" ∈ extractPoints guide (some 2) ∧ "2) c" ≠ "" ∧ '\n' ∉ "2) c".toList ∧
        IsTrimmed "2) c".toList ∧ isAdvisoryLine "2) c".toList = true) ∧
      extractPoints guide (some 2) <+: extractPoints guide (some 3) := by
  intro guide
  obtain ⟨hextract, -, hpoint, hprefix, -⟩ := points_are_advisory_lines guide
  have htwo : extractPoints guide (some 2) = ["- a\r- b", "2) c"] := by
    rw [hextract]
    decide +kernel
  have hmem : "2) c" ∈ extractPoints guide (some 2) := by
    rw [htwo]
    decide
  exact ⟨htwo, ⟨hmem, hpoint (some 2) _ hmem⟩, hprefix 2 3 (by decide)⟩

/-! ## Guides cut and put together -/

/-- Lines that differ only in blanks: in those around a line, and in lines that
have nothing else. -/
inductive Respaced : List (List Char) → List (List Char) → Prop where
  | nil : Respaced [] []
  | line {front back front' back' : List Char} (core : List Char) {lines others : List (List Char)}
      (hfront : IsBlankRun front) (hback : IsBlankRun back) (hfront' : IsBlankRun front')
      (hback' : IsBlankRun back') (hrest : Respaced lines others) :
      Respaced ((front ++ core ++ back) :: lines) ((front' ++ core ++ back') :: others)
  | removed {run : List Char} {lines others : List (List Char)} (hrun : IsBlankRun run)
      (hrest : Respaced lines others) : Respaced (run :: lines) others
  | inserted {run : List Char} {lines others : List (List Char)} (hrun : IsBlankRun run)
      (hrest : Respaced lines others) : Respaced lines (run :: others)

/-- A text with a carriage return put before every newline. -/
def withReturns (text : List Char) : List Char :=
  text.flatMap fun c => if c = '\n' then ['\r', '\n'] else [c]

theorem itemsIn_eq_of_respaced {lines others : List (List Char)} (h : Respaced lines others) :
    itemsIn lines = itemsIn others := by
  induction h with
  | nil => rfl
  | line core hfront hback hfront' hback' _ ih =>
      apply itemsIn_cons_congr _ ih
      rw [trim_between hfront hback, trim_between hfront' hback']
  | removed hrun _ ih => rw [itemsIn_cons_of_isBlankRun hrun, ih]
  | inserted hrun _ ih => rw [itemsIn_cons_of_isBlankRun hrun, ih]

/-- A newline parts the points before it from those after it. -/
theorem pointsOf_append_newline (guide more : List Char) :
    pointsOf (guide ++ '\n' :: more) = pointsOf guide ++ pointsOf more := by
  simp only [pointsOf_eq, List.splitOn_append_cons_self, itemsIn_append]

theorem pointsOf_line {line : List Char} (h : '\n' ∉ line) : pointsOf line = itemsIn [line] := by
  rw [pointsOf_eq, List.splitOn_eq_singleton h]

/-- A carriage return at the end of a line changes none of its points. -/
theorem pointsOf_append_return {line : List Char} (h : '\n' ∉ line) :
    pointsOf (line ++ ['\r']) = pointsOf line := by
  have hreturn : IsBlankRun ['\r'] := by decide
  have hline : '\n' ∉ line ++ ['\r'] := by simpa using h
  rw [pointsOf_line hline, pointsOf_line h]
  exact itemsIn_cons_congr (trim_append_run line hreturn) rfl

/-- The line `begun` goes on with the text, up to its first newline. -/
theorem pointsOf_append_withReturns {begun : List Char} (hbegun : '\n' ∉ begun)
    (text : List Char) : pointsOf (begun ++ withReturns text) = pointsOf (begun ++ text) := by
  induction text generalizing begun with
  | nil => rfl
  | cons c rest ih =>
      by_cases hc : c = '\n'
      · subst hc
        have hreturns : begun ++ withReturns ('\n' :: rest) =
            (begun ++ ['\r']) ++ '\n' :: withReturns rest := by
          simp [withReturns]
        have hrest : pointsOf (withReturns rest) = pointsOf rest := ih List.not_mem_nil
        rw [hreturns, pointsOf_append_newline, pointsOf_append_newline, hrest,
          pointsOf_append_return hbegun]
      · have hreturns : begun ++ withReturns (c :: rest) = (begun ++ [c]) ++ withReturns rest := by
          simp [withReturns, hc]
        have hlonger : '\n' ∉ begun ++ [c] := by
          simpa [hbegun] using Ne.symm hc
        rw [hreturns, ih hlonger, List.append_assoc, List.singleton_append]

theorem extractPoints_eq_of_pointsOf_eq {guide other : String}
    (h : pointsOf guide.toList = pointsOf other.toList) :
    extractPoints guide = extractPoints other := by
  rw [extractPoints, extractPoints, h]

/-- The points of a guide, written as lines, make a guide with these points. -/
theorem extractPoints_intercalate (guide : String) :
    extractPoints ("\n".intercalate (extractPoints guide)) = extractPoints guide := by
  let items := itemsIn (guide.toList.splitOn '\n')
  have hchars : ("\n".intercalate (extractPoints guide)).toList = ['\n'].intercalate items := by
    rw [String.toList_intercalate, extractPoints_eq, List.map_map]
    simp [Function.comp_def, items]
  have hitems : itemsIn ((['\n'].intercalate items).splitOn '\n') = items := by
    by_cases hnil : items = []
    · rw [hnil]
      rfl
    · have hlines : ∀ item ∈ items, '\n' ∉ item := fun _ => newline_not_mem_of_mem_itemsIn
      rw [List.splitOn_intercalate '\n' hlines hnil]
      exact itemsIn_itemsIn _
  rw [extractPoints_eq, hchars, hitems, ← extractPoints_eq]

/-- Points are taken line by line: those of two guides with a newline between
them are those of the one and then those of the other. Neither carriage returns
before the newlines nor other blanks around the lines, nor blank lines, make a
difference, and the points by themselves are a guide with the same points. -/
theorem points_are_taken_by_lines :
    (∀ guide more : String,
      extractPoints (guide ++ "\n" ++ more) = extractPoints guide ++ extractPoints more) ∧
    (∀ guide : String,
      extractPoints (String.ofList (withReturns guide.toList)) = extractPoints guide) ∧
    (∀ guide other : String,
      Respaced (guide.toList.splitOn '\n') (other.toList.splitOn '\n') →
        extractPoints guide = extractPoints other) ∧
    ∀ guide : String,
      extractPoints ("\n".intercalate (extractPoints guide)) = extractPoints guide := by
  refine ⟨fun guide more => ?_, fun guide => ?_, fun guide other h => ?_,
    extractPoints_intercalate⟩
  · have hchars : (guide ++ "\n" ++ more).toList = guide.toList ++ '\n' :: more.toList := by
      simp
    simp only [extractPoints, hchars, pointsOf_append_newline, List.map_append]
  · apply extractPoints_eq_of_pointsOf_eq
    rw [String.toList_ofList]
    exact pointsOf_append_withReturns List.not_mem_nil guide.toList
  · apply extractPoints_eq_of_pointsOf_eq
    rw [pointsOf_eq, pointsOf_eq, itemsIn_eq_of_respaced h]

/-- A guide with indented lines that end in carriage returns has the points of
one with a blank line in it. -/
theorem indented_guide_keeps_points :
    let guide := "1. a\n\n- b "
    let other := "\t1. a \r\n- b"
    Respaced (guide.toList.splitOn '\n') (other.toList.splitOn '\n') ∧
      extractPoints guide = extractPoints other := by
  intro guide other
  have hguide : guide.toList.splitOn '\n' =
      [[] ++ ['1', '.', ' ', 'a'] ++ [], [], [] ++ ['-', ' ', 'b'] ++ [' ']] := by
    decide +kernel
  have hother : other.toList.splitOn '\n' =
      [['\t'] ++ ['1', '.', ' ', 'a'] ++ [' ', '\r'], [] ++ ['-', ' ', 'b'] ++ []] := by
    decide +kernel
  have hrespaced : Respaced (guide.toList.splitOn '\n') (other.toList.splitOn '\n') := by
    rw [hguide, hother]
    apply Respaced.line _ isBlankRun_nil isBlankRun_nil (by decide) (by decide)
    apply Respaced.removed isBlankRun_nil
    exact Respaced.line _ isBlankRun_nil (by decide) isBlankRun_nil isBlankRun_nil .nil
  obtain ⟨-, -, hsame, -⟩ := points_are_taken_by_lines
  exact ⟨hrespaced, hsame guide other hrespaced⟩

end ViewAudit
