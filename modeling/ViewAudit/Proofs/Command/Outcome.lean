import ViewAudit.Command.Run
import ViewAudit.Proofs.Explain.Registry
import ViewAudit.Proofs.Guide.Loading
import ViewAudit.Proofs.Report.RoundTrip

/-!
The outcome of a run. A run with well-formed options fails for one of three
reasons, which are settled before there is a report: an unknown name, guides
that do not load, a text that cannot be read. It then leaves one diagnostic and
no output, and otherwise all of its output and no diagnostic. Neither the log
nor what a report says has an influence on that.
-/

namespace ViewAudit

/-! ## Reports of a clock -/

/-- The times of a run are those of a clock. -/
structure RunMeta.IsOfClock (run : RunMeta) : Prop where
  startedAt : run.startedAt.IsOfClock
  endedAt : ∀ stamp ∈ run.endedAt, stamp.IsOfClock

theorem RunMeta.IsOfClock.isWritable {run : RunMeta} (h : run.IsOfClock) : run.IsWritable where
  startedAt := h.startedAt.isWritable
  endedAt stamp hmem := (h.endedAt stamp hmem).isWritable

/-! ## What a run is about -/

/-- The name that is looked up for an identifier. -/
def explainedName (identifier : String) : String := String.ofList (trim identifier.toList)

/-- The text for a run is what the named file holds or, if no file is named, what
standard input encodes. -/
def Surroundings.HasText (around : Surroundings) (file : Option String) (text : String) : Prop :=
  match file with
  | some path => around.files.Holds path text
  | none => around.standardInput = Utf8.bytes text

theorem mapError_eq_ok_iff {ε ε' α : Type} {relabel : ε → ε'} {result : Except ε α} {value : α} :
    result.mapError relabel = .ok value ↔ result = .ok value := by
  cases result with
  | error error => exact ⟨nofun, nofun⟩
  | ok other =>
      constructor
      · intro h
        cases h
        rfl
      · intro h
        cases h
        rfl

theorem readSource_eq_ok_iff {around : Surroundings} {file : Option String} {text : String} :
    readSource around.files around.standardInput file = .ok text ↔ around.HasText file text := by
  cases file with
  | some path =>
      rw [Surroundings.HasText, ← Files.readText_eq_ok_iff, readSource, mapError_eq_ok_iff]
  | none =>
      rw [Surroundings.HasText, ← textOf_eq_ok_iff, readSource, readStandardInput,
        mapError_eq_ok_iff]

namespace Tool

/-- Why a run fails: an unknown name is to be explained, the guides do not load,
or there is no text. -/
def Fails (tool : Tool) (options : Options) (around : Surroundings) : Prop :=
  match tool, options.explain with
  | accessibilityCheck, some identifier =>
      explainedName identifier ∉ Check.ids ++ Check.codes
  | accessibilityCheck, none => ¬ ∃ text, around.HasText options.file text
  | guidelineAdvisor, _ =>
      (¬ ∃ loaded, loadGuides around.files options.guideRoot = .ok loaded) ∨
        ¬ ∃ text, around.HasText options.file text

/-- The one diagnostic of a run that fails. Guides that do not load come before a
text that cannot be read. -/
def Diagnoses (tool : Tool) (options : Options) (around : Surroundings) (diagnostic : String) :
    Prop :=
  match tool, options.explain with
  | accessibilityCheck, some identifier =>
      diagnostic = notFoundText (explainedName identifier) Check.ids Check.codes
  | accessibilityCheck, none =>
      ∃ error, readSource around.files around.standardInput options.file = .error error ∧
        diagnostic = error.diagnostic
  | guidelineAdvisor, _ =>
      match loadGuides around.files options.guideRoot with
      | .error error => diagnostic = error.diagnostic
      | .ok _ =>
          ∃ error, readSource around.files around.standardInput options.file = .error error ∧
            diagnostic = error.diagnostic

/-- The output of a run that succeeds. -/
def Prints (tool : Tool) (options : Options) (around : Surroundings) (output : String) : Prop :=
  match tool, options.explain with
  | accessibilityCheck, some identifier =>
      ∃ explanation, Check.lookup? (explainedName identifier) = some explanation ∧
        output = explanation.text
  | accessibilityCheck, none =>
      ∃ text, around.HasText options.file text ∧
        (ScanReport.ofText text around.run).render options.outputFormat = .ok output
  | guidelineAdvisor, _ =>
      ∃ loaded text, loadGuides around.files options.guideRoot = .ok loaded ∧
        around.HasText options.file text ∧
        (AdviceReport.ofText text loaded.corpus around.run).render options.outputFormat =
          .ok output

/-! ## Ends of runs -/

end Tool

/-! ## Outcomes -/

/-- The outcome that is due of a run: code 1 exactly for a failure, with nothing
but a diagnostic, and code 0 with nothing but an output. -/
structure Tool.IsDue (tool : Tool) (options : Options) (around : Surroundings)
    (outcome : Outcome) : Prop where
  exitCode_cases : outcome.exitCode = 0 ∨ outcome.exitCode = 1
  exitCode_eq_one_iff : outcome.exitCode = 1 ↔ tool.Fails options around
  of_failure : outcome.exitCode = 1 →
    outcome.standardOutput = "" ∧ tool.Diagnoses options around outcome.diagnostics
  of_success : outcome.exitCode = 0 →
    outcome.diagnostics = "" ∧ tool.Prints options around outcome.standardOutput

namespace Tool

section Runs

variable {tool : Tool} {arguments : List String} {options : Options} {around : Surroundings}

theorem IsDue.filterLog {outcome : Outcome} (h : tool.IsDue options around outcome)
    (filter : LogFilter) : tool.IsDue options around (outcome.filterLog filter) :=
  ⟨h.exitCode_cases, h.exitCode_eq_one_iff, h.of_failure, h.of_success⟩

/-- The output of a run is determined. -/
theorem Prints.unique {output other : String} (h : tool.Prints options around output)
    (hother : tool.Prints options around other) : output = other := by
  have htexts {text otherText : String} (htext : around.HasText options.file text)
      (hotherText : around.HasText options.file otherText) : text = otherText := by
    rw [← readSource_eq_ok_iff] at htext hotherText
    exact Except.ok.inj (htext.symm.trans hotherText)
  cases tool with
  | accessibilityCheck =>
      cases hexplain : options.explain with
      | some identifier =>
          simp only [Prints, hexplain] at h hother
          obtain ⟨explanation, hlookup, rfl⟩ := h
          obtain ⟨otherExplanation, hotherLookup, rfl⟩ := hother
          rw [Option.some.inj (hlookup.symm.trans hotherLookup)]
      | none =>
          simp only [Prints, hexplain] at h hother
          obtain ⟨text, htext, hrender⟩ := h
          obtain ⟨otherText, hotherText, hotherRender⟩ := hother
          rw [htexts htext hotherText] at hrender
          exact Except.ok.inj (hrender.symm.trans hotherRender)
  | guidelineAdvisor =>
      obtain ⟨loaded, text, hloaded, htext, hrender⟩ := h
      obtain ⟨otherLoaded, otherText, hotherLoaded, hotherText, hotherRender⟩ := hother
      rw [htexts htext hotherText, Except.ok.inj (hloaded.symm.trans hotherLoaded)] at hrender
      exact Except.ok.inj (hrender.symm.trans hotherRender)

end Runs

end Tool

end ViewAudit
