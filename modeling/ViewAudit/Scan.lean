import ViewAudit.Scan.Check

/-!
The scan of a text: the findings of all checks that fire, in two tiers.
-/

namespace ViewAudit

/-- The findings of a scan by tier, in the order of evaluation in each. -/
structure Scan where
  issues : List Finding
  warnings : List Finding
  deriving DecidableEq, Repr

namespace Scan

/-- The scan of a text, where a fragment has up to `fragmentLength` characters. -/
def ofText (text : String) (fragmentLength : Nat := defaultFragmentLength) : Scan :=
  let findings := (Check.firing fragmentLength text.toList).map Check.finding
  { issues := findings.filter (·.severity = .issue)
    warnings := findings.filter (·.severity = .warning) }

def verdict (scan : Scan) : Verdict := .ofFindings scan.issues scan.warnings

/-- Whether a scan found nothing. -/
def isClean (scan : Scan) : Bool := scan.issues.isEmpty && scan.warnings.isEmpty

example : ofText "Button (x)" = ⟨[], [Check.unlabeledControls.finding]⟩ := by
  decide +kernel

end Scan

end ViewAudit
