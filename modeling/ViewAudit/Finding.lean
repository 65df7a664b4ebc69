/-!
Findings, as a scan reports them, and the verdict that their number gives.
-/

namespace ViewAudit

/-- An issue must be fixed, a warning should be reviewed. -/
inductive Severity where
  | issue
  | warning
  deriving DecidableEq, Repr

structure Finding where
  severity : Severity
  checkId : String
  code : String
  message : String
  help : Option String
  url : Option String
  deriving DecidableEq, Repr

/-- The overall result of a scan. -/
inductive VerdictStatus where
  | pass
  | warn
  | fail
  deriving DecidableEq, Repr

structure VerdictCounts where
  issues : UInt32
  warnings : UInt32
  deriving DecidableEq, Repr

structure Verdict where
  status : VerdictStatus
  counts : VerdictCounts
  deriving DecidableEq, Repr

/-- One issue is enough to fail; warnings alone warn. -/
def VerdictStatus.ofFindings (issues warnings : List Finding) : VerdictStatus :=
  if !issues.isEmpty then fail
  else if !warnings.isEmpty then warn
  else pass

/-- The verdict on the findings of a scan. -/
def Verdict.ofFindings (issues warnings : List Finding) : Verdict where
  status := .ofFindings issues warnings
  counts := ⟨.ofNat issues.length, .ofNat warnings.length⟩

end ViewAudit
