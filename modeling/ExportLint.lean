import ExportLint.Lint
import ExportLint.Proofs.Addresses
import ExportLint.Proofs.Traversal
import ExportLint.Proofs.RuleNames
import ExportLint.Proofs.RuleSelection
import ExportLint.Proofs.Levels
import ExportLint.Proofs.Guidelines
import ExportLint.Proofs.Independence
import ExportLint.Proofs.ExportForms
import ExportLint.Proofs.ByteOrder
import ExportLint.Proofs.NamedLevels
import ExportLint.Proofs.LevelDocuments
import ExportLint.Proofs.Announcements
import ExportLint.Proofs.KeySpelling
import ExportLint.Proofs.ValueSpelling
import ExportLint.Proofs.Rewriting
import ExportLint.Proofs.Attribution
import ExportLint.Proofs.PropNames
import ExportLint.Proofs.InlineProps
import ExportLint.Proofs.Deferral
import ExportLint.Proofs.Rearrangement
import ExportLint.Proofs.ReportOrder
import ExportLint.Proofs.Positions
import ExportLint.Proofs.BracketedKeys
import ExportLint.Proofs.OtherMembers
