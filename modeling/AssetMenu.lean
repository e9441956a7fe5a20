import AssetMenu.Main
import AssetMenu.Template.PlainList
import AssetMenu.Proofs.CommandLine.Init
import AssetMenu.Proofs.Document.Reading
import AssetMenu.Proofs.Generation.EmptyPlan
import AssetMenu.Proofs.Generation.Refusal
import AssetMenu.Proofs.Manifest.Acceptance
import AssetMenu.Proofs.Naming.Outcomes
import AssetMenu.Proofs.Plan.Accounting
import AssetMenu.Proofs.Report.Agreement
import AssetMenu.Proofs.Report.DryRun
import AssetMenu.Proofs.Script.LineEnds
import AssetMenu.Proofs.Naming.ClosedForm
import AssetMenu.Proofs.Registry.Lineage
import AssetMenu.Proofs.Report.Forecast
import AssetMenu.Proofs.Report.Overriding
import AssetMenu.Proofs.Document.Quotation
import AssetMenu.Proofs.Document.Words
import AssetMenu.Proofs.Document.Sections
import AssetMenu.Proofs.Document.Keys
import AssetMenu.Proofs.Document.Layout
import AssetMenu.Proofs.Document.Drafts
import AssetMenu.Proofs.Manifest.Starter
import AssetMenu.Proofs.FileSystem.Removal
import AssetMenu.Proofs.Output.Atomicity
import AssetMenu.Proofs.Registry.Cycles
import AssetMenu.Proofs.Naming.Exchange
import AssetMenu.Proofs.Plan.Extension
import AssetMenu.Proofs.Script.References
import AssetMenu.Proofs.Code.Relocation
import AssetMenu.Proofs.Template.Escaping
import AssetMenu.Proofs.Text.Lines
import AssetMenu.Proofs.Document.Marking
import AssetMenu.Proofs.Manifest.Faults
import AssetMenu.Proofs.Manifest.SettingLabel
import AssetMenu.Proofs.Document.Progress
import AssetMenu.Proofs.Document.Sites
import AssetMenu.Proofs.Text.Search
import AssetMenu.Proofs.Manifest.NameTokens
import AssetMenu.Proofs.Manifest.NameLabel
import AssetMenu.Proofs.TypeName.Grammar
import AssetMenu.Proofs.Registry.Ascent
import AssetMenu.Proofs.Manifest.NameSearch
