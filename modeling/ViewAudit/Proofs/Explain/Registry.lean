import Mathlib.Data.List.Basic
import ViewAudit.Explain.Answer
import ViewAudit.Proofs.Text.Trim
import ViewAudit.Scan

/-!
The registry of explanations against the table of checks. The two are written
apart: the checks with what they report, the names that are listed as known, and
what goes by each name. The names that are listed are those that something goes
by, they are in the order of the checks, and a scan reports no others.
-/

namespace ViewAudit

/-- A list without repetitions has an item at one position only. -/
theorem getElem?_eq_some_iff_of_nodup {α : Type} {items : List α} (hnodup : items.Nodup) {item : α}
    {position i : Nat} (h : items[position]? = some item) :
    items[i]? = some item ↔ i = position := by
  obtain ⟨hlt, -⟩ := List.getElem?_eq_some_iff.mp h
  rw [← h, eq_comm, List.getElem?_inj hlt hnodup, eq_comm]

namespace Check

/-! ## Tables -/

theorem ids_eq_map_finding : ids = (all.map finding).map Finding.checkId := rfl

theorem codes_eq_map_finding : codes = (all.map finding).map Finding.code := rfl

theorem map_fst_registry : registry.map Prod.fst = ids ++ codes := rfl

theorem nodup_names : (ids ++ codes).Nodup := by decide

/-- The names that are listed are those that something goes by. -/
theorem lookup?_eq_none_iff {name : String} : lookup? name = none ↔ name ∉ ids ++ codes := by
  rw [lookup?, List.lookup_eq_none_iff, ← map_fst_registry, List.mem_map]
  constructor
  · rintro hnone ⟨entry, hmem, rfl⟩
    simpa using hnone entry hmem
  · intro hnot entry hmem
    simpa using fun hname => hnot ⟨entry, hmem, Eq.symm hname⟩

theorem exists_lookup?_iff {name : String} :
    (∃ explanation, lookup? name = some explanation) ↔ name ∈ ids ∨ name ∈ codes := by
  rw [← Option.ne_none_iff_exists', ne_eq, lookup?_eq_none_iff, not_not, List.mem_append]

end Check

/-! ## Answers -/

namespace ExplainAnswer

variable {identifier name : String}

/-- What is looked up is what an identifier trims to. -/
theorem of_eq_found {explanation : Explanation} (h : TrimsTo identifier.toList name.toList)
    (hlookup : Check.lookup? name = some explanation) : of identifier = .found explanation := by
  simp only [of, trim_eq_iff.mpr h, String.ofList_toList, hlookup]

theorem of_eq_notFound (h : TrimsTo identifier.toList name.toList)
    (hlookup : Check.lookup? name = none) :
    of identifier = .notFound name Check.ids Check.codes := by
  simp only [of, trim_eq_iff.mpr h, String.ofList_toList, hlookup]

theorem of_eq_found_iff {explanation : Explanation}
    (h : TrimsTo identifier.toList name.toList) :
    of identifier = .found explanation ↔ Check.lookup? name = some explanation := by
  cases hlookup : Check.lookup? name with
  | none => simp [of_eq_notFound h hlookup]
  | some other => simp [of_eq_found h hlookup]

/-- An answer to what a name stands for: what goes by it if it is listed, and otherwise the
name, with lists of all that something goes by. -/
structure IsFor (answer : ExplainAnswer) (name : String) : Prop where
  found_iff : (∃ explanation, answer = .found explanation) ↔ name ∈ Check.ids ∨ name ∈ Check.codes
  lookup_of_found : ∀ explanation, answer = .found explanation →
    Check.lookup? name = some explanation
  notFound : (∀ explanation, answer ≠ .found explanation) →
    ∃ ids codes, answer = .notFound name ids codes ∧
      ∀ known, (known ∈ ids ∨ known ∈ codes) ↔
        ∃ explanation, Check.lookup? known = some explanation

theorem isFor_of_trimsTo (h : TrimsTo identifier.toList name.toList) :
    (of identifier).IsFor name where
  found_iff := by
    rw [← Check.exists_lookup?_iff]
    exact exists_congr fun _ => of_eq_found_iff h
  lookup_of_found _ hfound := (of_eq_found_iff h).mp hfound
  notFound hnot := by
    have hname : Check.lookup? name = none := by
      rw [Option.eq_none_iff_forall_ne_some]
      exact fun explanation hlookup => hnot explanation ((of_eq_found_iff h).mpr hlookup)
    exact ⟨_, _, of_eq_notFound h hname, fun _ => Check.exists_lookup?_iff.symm⟩

theorem of_between_blanks {front back : String} (hfront : IsBlankRun front.toList)
    (hback : IsBlankRun back.toList) (identifier : String) :
    of (front ++ identifier ++ back) = of identifier := by
  rw [of, of, String.toList_append, String.toList_append, trim_between hfront hback]

end ExplainAnswer

/-- An identifier trims to one name only. -/
theorem exists_trimsTo_iff (identifier : String) :
    ∃ name : String, ∀ other : String, TrimsTo identifier.toList other.toList ↔ other = name := by
  refine ⟨String.ofList (trim identifier.toList), fun other => ?_⟩
  rw [← trim_eq_iff, ← String.toList_inj, String.toList_ofList, eq_comm]

/-! ## Findings -/

/-- Two explanations with nothing but their titles different. -/
structure Explanation.SameAdvice (first second : Explanation) : Prop where
  description : first.description = second.description
  remediation : first.remediation = second.remediation
  before : first.before = second.before
  after : first.after = second.after

namespace Finding

/-- The two names of a finding are explained, with the same advice. -/
def IsExplained (finding : Finding) : Prop :=
  ∃ ofCheck ofCode, ExplainAnswer.of finding.checkId = .found ofCheck ∧
    ExplainAnswer.of finding.code = .found ofCode ∧ ofCheck.SameAdvice ofCode

/-- The two names of a finding stand at a position in the lists of names, each in its own
list, and nowhere else in them. -/
def StandsAt (finding : Finding) (position : Nat) : Prop :=
  ∀ i, (Check.ids[i]? = some finding.checkId ↔ i = position) ∧
    (Check.codes[i]? = some finding.code ↔ i = position)

theorem StandsAt.unique {finding : Finding} {position other : Nat}
    (h : finding.StandsAt position) (hother : finding.StandsAt other) : other = position :=
  (h other).1.mp ((hother other).1.mpr rfl)

end Finding

namespace Check

theorem trimsTo_id (check : Check) : TrimsTo check.id.toList check.id.toList := by
  apply trim_eq_iff.mp
  cases check <;> decide

theorem trimsTo_code (check : Check) : TrimsTo check.code.toList check.code.toList := by
  apply trim_eq_iff.mp
  cases check <;> decide

/-- The same advice goes by both names of a check. -/
theorem exists_lookup?_names (check : Check) :
    ∃ ofCheck ofCode, lookup? check.id = some ofCheck ∧ lookup? check.code = some ofCode ∧
      ofCheck.SameAdvice ofCode := by
  cases check <;> exact ⟨_, _, rfl, rfl, ⟨rfl, rfl, rfl, rfl⟩⟩

theorem isExplained_finding (check : Check) : check.finding.IsExplained := by
  obtain ⟨ofCheck, ofCode, hid, hcode, hsame⟩ := check.exists_lookup?_names
  exact ⟨ofCheck, ofCode, ExplainAnswer.of_eq_found check.trimsTo_id hid,
    ExplainAnswer.of_eq_found check.trimsTo_code hcode, hsame⟩

/-- The names of a check stand where the check stands among all checks. -/
theorem standsAt_finding (check : Check) : check.finding.StandsAt (all.idxOf check) := by
  have hat : (all.map finding)[all.idxOf check]? = some check.finding := by
    rw [List.getElem?_map, List.getElem?_idxOf check.mem_all]
    rfl
  have hid : ids[all.idxOf check]? = some check.finding.checkId := by
    rw [ids_eq_map_finding, List.getElem?_map, hat]
    rfl
  have hcode : codes[all.idxOf check]? = some check.finding.code := by
    rw [codes_eq_map_finding, List.getElem?_map, hat]
    rfl
  obtain ⟨hids, hcodes, -⟩ := List.nodup_append.mp nodup_names
  exact fun i => ⟨getElem?_eq_some_iff_of_nodup hids hid,
    getElem?_eq_some_iff_of_nodup hcodes hcode⟩

/-- The findings on a text, not yet split into tiers. -/
def findings (limit : Nat) (text : List Char) : List Finding := (firing limit text).map finding

theorem mem_findings_iff {limit : Nat} {text : List Char} {finding : Finding} :
    finding ∈ findings limit text ↔
      ∃ check : Check, check.fires limit text = true ∧ check.finding = finding := by
  simp [findings, firing, mem_all]

/-- Checks fire in the order in which their names are listed. -/
theorem findings_pairwise (limit : Nat) (text : List Char) :
    (findings limit text).Pairwise fun first second =>
      ∀ i j, first.StandsAt i → second.StandsAt j → i < j := by
  have hall : all.Pairwise fun first second => all.idxOf first < all.idxOf second := by decide
  rw [findings, List.pairwise_map]
  refine (hall.filter _).imp fun hlt i j hi hj => ?_
  rw [(standsAt_finding _).unique hi, (standsAt_finding _).unique hj]
  exact hlt

/-! ## Examples -/

theorem toList_textOfLines (lines : List String) :
    (textOfLines lines).toList = ['\n'].intercalate (lines.map String.toList) :=
  String.toList_intercalate

/-- Every check fires on the source that its explanation shows as flagged. It does not on the
source that is shown as passing, except for the check on gestures: there the action has a
block and no parenthesis after it, and the check looks for the parenthesis. -/
theorem fires_on_examples (check : Check) {explanation : Explanation}
    (h : lookup? check.id = some explanation) :
    check.fires defaultFragmentLength explanation.before.toList = true ∧
      (check.fires defaultFragmentLength explanation.after.toList = true ↔
        check = inaccessibleGestures) := by
  -- The lines are taken apart first, since a text that is put together is slow to compute with.
  cases check <;> cases h <;>
    simp only [unlabeledImagesExplanation, unlabeledControlsExplanation, noTextContentExplanation,
      inaccessibleGesturesExplanation, colorOnlyInformationExplanation, toList_textOfLines] <;>
    decide +kernel

/-- Every check has a text on which it reports its finding. -/
theorem exists_finding_mem (check : Check) :
    ∃ limit text, check.finding ∈ findings limit text := by
  obtain ⟨ofCheck, -, hlookup, -, -⟩ := check.exists_lookup?_names
  have hfires := (check.fires_on_examples hlookup).1
  exact ⟨_, _, mem_findings_iff.mpr ⟨check, hfires, rfl⟩⟩

/-- The findings of all checks are those that there are on some text, under any view of
them. -/
theorem mem_map_finding_iff {view : Finding → String} {name : String} :
    name ∈ (all.map finding).map view ↔
      ∃ limit text, ∃ finding ∈ findings limit text, view finding = name := by
  constructor
  · intro hmem
    obtain ⟨_, hfinding, rfl⟩ := List.mem_map.mp hmem
    obtain ⟨check, -, rfl⟩ := List.mem_map.mp hfinding
    obtain ⟨limit, text, hfound⟩ := check.exists_finding_mem
    exact ⟨limit, text, _, hfound, rfl⟩
  · rintro ⟨limit, text, _, hfound, rfl⟩
    obtain ⟨check, -, rfl⟩ := mem_findings_iff.mp hfound
    exact List.mem_map_of_mem (List.mem_map_of_mem check.mem_all)

end Check

theorem Scan.mem_findings_of_mem {text : String} {limit : Nat} {finding : Finding}
    (h : finding ∈ (ofText text limit).issues ++ (ofText text limit).warnings) :
    finding ∈ Check.findings limit text.toList := by
  rcases List.mem_append.mp h with hissue | hwarning
  · exact List.mem_of_mem_filter hissue
  · exact List.mem_of_mem_filter hwarning

/-- The registry explains what scans report, and nothing else. The answer to an identifier is
an explanation exactly if what it trims to is a listed name, so blanks around it make no
difference, and any other answer lists exactly the names that something goes by. Both names of
whatever a scan finds are explained with the same advice and stand at the same position in
their lists; the findings come in the order of these positions, and every name that is listed
is that of a finding on some text. -/
theorem registry_explains_exactly_what_is_found (identifier : String) {front back : String}
    (hfront : IsBlankRun front.toList) (hback : IsBlankRun back.toList) (text : String)
    (limit : Nat) :
    (∃ name : String,
        (∀ other : String, TrimsTo identifier.toList other.toList ↔ other = name) ∧
        (ExplainAnswer.of identifier).IsFor name) ∧
      ExplainAnswer.of (front ++ identifier ++ back) = ExplainAnswer.of identifier ∧
      (∀ finding ∈ (Scan.ofText text limit).issues ++ (Scan.ofText text limit).warnings,
        finding ∈ Check.findings limit text.toList ∧ finding.IsExplained ∧
          ∃ position, finding.StandsAt position) ∧
      ((Check.findings limit text.toList).Pairwise fun first second =>
        ∀ i j, first.StandsAt i → second.StandsAt j → i < j) ∧
      (∀ name, name ∈ Check.ids ↔
        ∃ limit text, ∃ finding ∈ Check.findings limit text, finding.checkId = name) ∧
      (∀ name, name ∈ Check.codes ↔
        ∃ limit text, ∃ finding ∈ Check.findings limit text, finding.code = name) := by
  refine ⟨?_, ExplainAnswer.of_between_blanks hfront hback identifier, ?_,
    Check.findings_pairwise limit text.toList, ?_, ?_⟩
  · obtain ⟨name, hname⟩ := exists_trimsTo_iff identifier
    exact ⟨name, hname, ExplainAnswer.isFor_of_trimsTo ((hname name).mpr rfl)⟩
  · intro finding hmem
    have hfound := Scan.mem_findings_of_mem hmem
    obtain ⟨check, -, rfl⟩ := Check.mem_findings_iff.mp hfound
    exact ⟨hfound, check.isExplained_finding, _, check.standsAt_finding⟩
  · intro name
    rw [Check.ids_eq_map_finding]
    exact Check.mem_map_finding_iff
  · intro name
    rw [Check.codes_eq_map_finding]
    exact Check.mem_map_finding_iff

/-- Findings of both tiers take turns, and the blanks around a code are of several kinds. -/
theorem scattered_findings_are_explained :
    let text := "Button(go).onTapGesture(tap).foregroundColor(.red)"
    let found := [Check.unlabeledControls, .noTextContent, .inaccessibleGestures,
      .colorOnlyInformation].map Check.finding
    IsBlankRun "\u0085".toList ∧ IsBlankRun "\u3000\n".toList ∧
      Check.noTextContent.finding ∈ (Scan.ofText text 20).issues ++ (Scan.ofText text 20).warnings ∧
      Check.findings 20 text.toList = found ∧
      ExplainAnswer.of ("\u0085" ++ " view_without_text" ++ "\u3000\n") =
        .found Check.noTextContentExplanation ∧
      Check.noTextContent.finding.IsExplained ∧
      (found.Pairwise fun first second => ∀ i j, first.StandsAt i → second.StandsAt j → i < j) := by
  intro text found
  have hfront : IsBlankRun "\u0085".toList := by decide
  have hback : IsBlankRun "\u3000\n".toList := by decide
  have hfiring : Check.firing 20 text.toList = [.unlabeledControls, .noTextContent,
      .inaccessibleGestures, .colorOnlyInformation] := by decide +kernel
  have hfound : Check.findings 20 text.toList = found := by rw [Check.findings, hfiring]
  have hmem : Check.noTextContent.finding ∈
      (Scan.ofText text 20).issues ++ (Scan.ofText text 20).warnings := by
    rw [Scan.ofText, hfiring]
    exact List.mem_append_left _ (List.mem_cons_self)
  have hanswer : ExplainAnswer.of " view_without_text" = .found Check.noTextContentExplanation :=
    ExplainAnswer.of_eq_found (trim_eq_iff.mp (by decide : trim _ = "view_without_text".toList)) rfl
  obtain ⟨-, hblanks, hexplained, horder, -, -⟩ :=
    registry_explains_exactly_what_is_found " view_without_text" hfront hback text 20
  rw [hfound] at horder
  exact ⟨hfront, hback, hmem, hfound, hblanks.trans hanswer, (hexplained _ hmem).2.1, horder⟩

end ViewAudit
