import Triage.Coverage
import Triage.Matching.Reconciliation
import Triage.Supplement
import Triage.Summary.Basic

/-!
# Reports

The results of a review as documents.
-/

namespace Triage

open Vocabulary

/-- A count that may be missing as a value. -/
def optInt (n : Option Int) : Value :=
  (n.map Value.int).getD .null

/-- An account of drafts as a document. -/
def Diagnostics.toValue (d : Diagnostics) : Value :=
  .record [("droppedIgnored", .nat d.droppedIgnored), ("droppedEmpty", .nat d.droppedEmpty),
    ("deduplicated", .nat d.deduplicated), ("convertedToSummary", .nat d.convertedToSummary),
    ("downgradedBlocking", .nat d.downgradedBlocking),
    ("droppedPerFileCap", .nat d.droppedPerFileCap)]

/-- A target as a document. -/
def CoverageTarget.toValue (t : CoverageTarget) : Value :=
  .record [("path", .text t.path), ("risk", .text (word t.risk)), ("reason", .text t.reason),
    ("additions", optInt t.additions), ("deletions", optInt t.deletions)]

/-- The reach of a pass as a document. -/
def CoverageStats.toValue (s : CoverageStats) : Value :=
  .record [("totalChanged", .nat s.totalChanged), ("coveredChanged", .nat s.coveredChanged),
    ("uncoveredChanged", .nat s.uncoveredChanged), ("coverageRatio", .real s.coverageRatio),
    ("findingsOnChanged", .nat s.findingsOnChanged),
    ("minExpectedFindings", .nat s.minExpectedFindings)]

/-- A plan as a document. -/
def CoveragePlan.toValue (p : CoveragePlan) : Value :=
  .record [("shouldRun", .bool p.shouldRun),
    ("targets", .list (p.targets.map CoverageTarget.toValue)),
    ("stats", p.stats.toValue),
    ("riskByPath", .record (p.riskByPath.map fun (path, r) => (path, .text (word r))))]

/-- The counts of a second pass as fields. -/
def Supplemented.counts (s : Supplemented) : List (String × Value) :=
  [("added", .nat s.added), ("droppedDuplicates", .nat s.droppedDuplicates),
    ("droppedLowValue", .nat s.droppedLowValue), ("droppedInvalid", .nat s.droppedInvalid)]

/-- The id that a match claimed as a value. -/
def FindingMatch.priorId (m : FindingMatch) : Value :=
  (m.claim.map StoreId.toValue).getD .null

/-- How a match was made as a value. -/
def FindingMatch.methodName (m : FindingMatch) : Value :=
  (m.prior.map fun p => Value.text (word p.2)).getD .null

/-- A match as fields. -/
def FindingMatch.fields (m : FindingMatch) : List (String × Value) :=
  [("comment_id", .text m.finding.id), ("existing_id", m.priorId), ("method", m.methodName),
    ("fingerprint", .text m.fingerprint), ("hunk_hash", .text m.hunkHash),
    ("context_hash", .text m.contextHash), ("match_key", .text m.matchKey)]

/-- The ids of prior findings as a value. -/
def priorIds (prior : List PriorFinding) : Value :=
  .list (prior.map fun p => p.id.toValue)

/-- A reconciliation as a document. -/
def Reconciliation.toValue (r : Reconciliation) : Value :=
  .record [("matches", .list (r.matched.map fun m => .record m.fields)),
    ("fixed", priorIds r.fixed), ("obsolete", priorIds r.obsolete)]

end Triage
