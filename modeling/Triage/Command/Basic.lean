import Triage.Command.Arguments
import Triage.Json.Printer
import Triage.Report
import Triage.Refinement.Basic
import Triage.Summary.Merge

/-!
# Commands

The two commands, as functions from files and options to a document: `refine` makes the comments of
a review, with a second pass merged in, and `match` tells which of them update findings of an
earlier run.
-/

namespace Triage.Command

/-- The options of the first command. -/
def refineUsage : Usage where
  required := ["--diff", "--findings"]
  optional := ["--changed-files", "--feedback", "--config", "--supplemental", "--output"]
  flags := ["--verbose"]

/-- The options of the second command. -/
def matchUsage : Usage where
  required := ["--diff", "--findings", "--existing"]
  optional := ["--output"]
  flags := ["--verbose"]

/-! ### Refining -/

/-- All inputs of the first command. -/
structure RefineInputs where
  settings : Settings
  index : DiffIndex
  comments : List Value
  summary : Option RunSummary
  changedFiles : List ChangedFile
  policy : FeedbackPolicy
  supplemental : Option (List Value × Option RunSummary)

/-- Reads the inputs of the first command, one after another up to the first fault. -/
def readRefineInputs [Nesting] (files : Files) (o : Options) : Input RefineInputs := do
  let settings ← readSettings files (file? o "--config")
  let index ← readDiff files (file o "--diff")
  let (comments, summary) ← readReview files (file o "--findings")
  let changedFiles ← readChangedFiles files (file? o "--changed-files")
  let policy ← readPolicy files (file? o "--feedback")
  let supplemental ← match file? o "--supplemental" with
    | none => pure none
    | some name => some <$> readReview files name
  return { settings, index, comments, summary, changedFiles, policy, supplemental }

/-- The choices that settings and feedback make for a refinement. -/
def Settings.refineOptions (s : Settings) (policy : FeedbackPolicy) : RefineOptions where
  maxInlineComments := s.limits.maxInlineComments
  summaryOnly := s.summaryOnly
  allowedTypes := some s.allowedTypes
  policy := policy
  weights := s.weights
  ignore := s.ignore

/-- Two summaries that may be missing as one. -/
def mergeSummaries (maxKeyConcerns : Int) :
    Option RunSummary → Option RunSummary → Option RunSummary
  | some a, some b => some (a.merge b maxKeyConcerns)
  | some a, none => some a
  | none, b => b

namespace RefineInputs

/-- Refines raw comments. -/
def refined (i : RefineInputs) (comments : List Value) : Except LimitError Refined :=
  refine (comments.map .document) i.index i.changedFiles
    (Settings.refineOptions i.settings i.policy)

/-- The findings of a first pass, with the fields and the summary that a second pass leads to. -/
def withSupplement (i : RefineInputs) (base : Refined) :
    Except LimitError (List Finding × List (String × Value) × Option RunSummary) :=
  match i.supplemental with
  | none => .ok (base.findings, [], i.summary)
  | some (comments, extraSummary) => do
    let extra ← i.refined comments
    let merged ← supplement base.findings (extra.findings.map .finding)
    let fields := ("diagnostics", extra.diagnostics.toValue) :: merged.counts
    return (merged.findings, [("supplemental", .record fields)],
      mergeSummaries i.settings.limits.maxKeyConcerns i.summary extraSummary)

/-- The document of the first command. -/
def document (i : RefineInputs) : Except LimitError Value := do
  let base ← i.refined i.comments
  let plan ← coveragePlan i.changedFiles base.findings i.settings.limits.maxCoverageTargets
  let (findings, extraFields, summary) ← i.withSupplement base
  let head := [("diagnostics", base.diagnostics.toValue), ("coverage", plan.toValue)]
  return .record <|
    head ++ extraFields ++ [("comments", .list (findings.map Finding.toValue))] ++
      (summary.map fun s => ("summary", s.toValue)).toList

end RefineInputs

/-- A result of work on inputs. -/
def limited (r : Except LimitError α) : Input α :=
  r.mapError fun e => .unforeseen (.limit e)

/-- The first command. -/
def refineCommand [Nesting] (files : Files) (o : Options) : Input Value := do
  let inputs ← readRefineInputs files o
  limited inputs.document

/-! ### Matching -/

/-- The second command. -/
def matchCommand [Nesting] (files : Files) (o : Options) : Input Value := do
  let index ← readDiff files (file o "--diff")
  let findings ← readFindings files (file o "--findings")
  let prior ← readPrior files (file o "--existing")
  let result ← limited (reconcile findings prior index)
  return result.toValue

/-! ### Outcomes -/

/-- What a command comes to. -/
inductive Outcome
  | written (document : Value)
  /-- the command fails with a message -/
  | failed (message : String)
  /-- the command ends at once -/
  | broken (e : InputError)

/-- A command by its name. -/
structure Spec where
  name : String
  options : Usage
  run : Files → Options → Input Value

/-- The commands. -/
def commands [Nesting] : List (String × Spec) :=
  [("refine", ⟨"refine-findings", refineUsage, refineCommand⟩),
    ("match", ⟨"match-findings", matchUsage, matchCommand⟩)]

/-- What the result of a command comes to. -/
def Spec.outcome (spec : Spec) (files : Files) (o : Options) : Outcome :=
  match spec.run files o with
  | .ok v => .written v
  | .error e =>
    if e.isUnexpected then .broken e else .failed (spec.name ++ ": " ++ e.message)

/-- The status of a command that fails. -/
def failureCode : Nat := 2

/-- The text that a document is written as. -/
def render (v : Value) : String :=
  Json.indented v ++ "\n"

end Triage.Command
