import ViewAudit.Files.Writing
import ViewAudit.Guide.Sample
import ViewAudit.Main
import ViewAudit.Report.Mask
import ViewAudit.Report.Schema
import ViewAudit.Proofs.Command.Outcome
import ViewAudit.Proofs.Files.Acquisition
import ViewAudit.Proofs.Guide.Advice
import ViewAudit.Proofs.Guide.Discovery
import ViewAudit.Proofs.Guide.History
import ViewAudit.Proofs.Guide.Influence
import ViewAudit.Proofs.Guide.Interaction
import ViewAudit.Proofs.Guide.Point
import ViewAudit.Proofs.Guide.Topic
import ViewAudit.Proofs.Report.AdviceLines
import ViewAudit.Proofs.Report.FindingLines
import ViewAudit.Proofs.Report.MaskedPositions
import ViewAudit.Proofs.Report.Masking
import ViewAudit.Proofs.Report.Revision
import ViewAudit.Proofs.Report.Times
import ViewAudit.Proofs.Scan.Growth
import ViewAudit.Proofs.Scan.Join
import ViewAudit.Proofs.Scan.Layout
import ViewAudit.Proofs.Scan.Remedy
import ViewAudit.Proofs.Scan.Table
import ViewAudit.Proofs.Schema.Admission
