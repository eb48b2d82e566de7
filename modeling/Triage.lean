import Triage.ChangedFile.Listing
import Triage.Command.Basic
import Triage.Main
import Triage.Session
import Triage.Proofs.Finding.Numbering
import Triage.Proofs.Digest
import Triage.Proofs.Text.Tidy
import Triage.Proofs.Finding.Canonical
import Triage.Proofs.Finding.Stability
import Triage.Proofs.Refinement.Screening
import Triage.Proofs.Traversal
import Triage.Proofs.Refinement.Order
import Triage.Proofs.Refinement.Selection
import Triage.Proofs.Refinement.Strongest
import Triage.Proofs.Refinement.Accounting
import Triage.Proofs.Distinctness
import Triage.Proofs.Refinement.Idempotence
import Triage.Proofs.Matching.Claiming
import Triage.Proofs.Matching.Rereview
import Triage.Proofs.Refinement.Presentation
import Triage.Proofs.Refinement.Cap
import Triage.Proofs.Refinement.Reordering
import Triage.Proofs.Refinement.RaisedLimit
import Triage.Proofs.Refinement.Rejection
import Triage.Proofs.Matching.Classification
import Triage.Proofs.Matching.Interleaving
import Triage.Proofs.Matching.Anchoring
import Triage.Proofs.Matching.Best
import Triage.Proofs.Matching.Recognition
import Triage.Proofs.Matching.Owners
import Triage.Proofs.Supplement.Extension
import Triage.Proofs.Supplement.Repetition
import Triage.Proofs.Supplement.History
import Triage.Proofs.Occurrences
import Triage.Proofs.OrderedMap
import Triage.Proofs.Summary.Notes
import Triage.Proofs.Summary.Retention
import Triage.Proofs.Summary.Grouping
import Triage.Proofs.Coverage.Plans
import Triage.Proofs.Coverage.Merging
import Triage.Proofs.Coverage.Targets
import Triage.Proofs.Coverage.Growth
import Triage.Proofs.Feedback.Voting
import Triage.Proofs.Diff.Lookup
import Triage.Proofs.Diff.Position
import Triage.Proofs.Diff.Agreement
import Triage.Proofs.Diff.Reading
import Triage.Proofs.Diff.Roundtrip
import Triage.Proofs.Refinement.CommentTypes
import Triage.Proofs.Command.Documents
import Triage.Proofs.Command.Faults
import Triage.Proofs.Command.Handling
import Triage.Proofs.Command.Matching
import Triage.Proofs.Json.Records
import Triage.Proofs.Records
import Triage.Proofs.Repeats
import Triage.Proofs.Settings.Acceptance
import Triage.Proofs.Titles
import Triage.Proofs.Path
import Triage.Proofs.Diff.Window
import Triage.Proofs.Matching.Identity
import Triage.Proofs.Listing
import Triage.Proofs.Diff.Signature
import Triage.Proofs.Finding.Suffixes
