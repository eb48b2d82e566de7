import Triage.ChangedFile.Basic
import Triage.Diff.Index
import Triage.Finding.Canonical
import Triage.Finding.Reading
import Triage.Glob
import Triage.Refinement.Score

/-!
# Screening

What becomes of one draft before it is compared with the others: it is left out, or it becomes a
canonical finding with a score, whose severity and kind of comment may have been lowered.
-/

namespace Triage

/-- The choices of a refinement. -/
structure RefineOptions where
  maxInlineComments : Int
  summaryOnly : Bool
  /-- all kinds are allowed if there is no list -/
  allowedTypes : Option (List CommentType)
  policy : FeedbackPolicy
  weights : Weights
  ignore : List String

/-- The choices unless others are made. -/
def RefineOptions.default : RefineOptions where
  maxInlineComments := 20
  summaryOnly := false
  allowedTypes := none
  policy := .neutral
  weights := .default
  ignore := []

/-- Whether every comment goes into the summary. -/
def RefineOptions.forcesSummary (o : RefineOptions) : Bool :=
  o.summaryOnly || o.allowedTypes.any (CommentType.inline ∉ ·)

/-- The place of a finding in a diff. -/
def Finding.anchor (f : Finding) : Anchor := ⟨f.path, f.side, f.line⟩

/-- The paths of changed files. -/
def changedPaths (files : List ChangedFile) : List String :=
  (files.map fun file => Path.relative file.path).filter (· ≠ "")

/-- A finding with its score. -/
structure Ranked where
  finding : Finding
  score : Number
  deriving DecidableEq, Repr

/-- What became of a draft. -/
inductive Outcome
  /-- its path is one to leave out -/
  | ignored
  /-- it is no finding, or one that says nothing -/
  | empty
  | kept (item : Ranked) (downgraded converted : Bool)

namespace Outcome

/-- The item that was kept. -/
def item? : Outcome → Option Ranked
  | kept item _ _ => some item
  | _ => none

/-- Whether the path of a draft was one to leave out. -/
def isIgnored : Outcome → Bool
  | ignored => true
  | _ => false

/-- Whether a draft was no finding, or said nothing. -/
def isEmpty : Outcome → Bool
  | empty => true
  | _ => false

/-- Whether a finding blocks no longer. -/
def isDowngraded : Outcome → Bool
  | kept _ downgraded _ => downgraded
  | _ => false

/-- Whether a finding left its line for the summary. -/
def isConverted : Outcome → Bool
  | kept _ _ converted => converted
  | _ => false

end Outcome

namespace Finding

/-- A question of style is never more than a nit. -/
def capStyle (f : Finding) : Finding :=
  if f.category = .style ∧ f.severity ≠ .nit then { f with severity := .nit } else f

/-- Whether a finding would block without a patch to offer. -/
def blocksWithoutPatch (f : Finding) : Bool :=
  f.severity = .blocking && !f.hasPatch

/-- Nothing blocks without a patch to offer. -/
def downgrade (f : Finding) : Finding :=
  if f.blocksWithoutPatch then { f with severity := .important } else f

/-- A finding with the severity that it is shown with. -/
def lowered (f : Finding) : Finding :=
  f.capStyle.downgrade

/-- The finding as a comment in the summary. -/
def toSummary (f : Finding) : Finding :=
  { f with commentType := .summary }

/-- Whether an inline finding has to go into the summary: all have to, or its line is not in the
diff. -/
def leavesLine (index : DiffIndex) (o : RefineOptions) (f : Finding) : Bool :=
  !f.isSummary && (o.forcesSummary || !index.hasLine f.anchor)

/-- A finding with the kind of comment that it is shown as. -/
def placed (index : DiffIndex) (o : RefineOptions) (f : Finding) : Finding :=
  if f.leavesLine index o then f.toSummary else f

/-- A finding as it is shown. -/
def shown (index : DiffIndex) (o : RefineOptions) (f : Finding) : Finding :=
  f.lowered.placed index o

/-- The score of a finding under a diff and changed paths. -/
def score? (index : DiffIndex) (paths : List String) (o : RefineOptions) (f : Finding) :
    Option Number :=
  priorityScore o.weights o.policy (index.hasLine f.anchor) (f.path ∈ paths) f

end Finding

/-- Ranks a canonical finding by the score of what is shown of it. -/
def rank (index : DiffIndex) (paths : List String) (o : RefineOptions) (f : Finding) :
    Except LimitError Outcome :=
  match (f.shown index o).score? index paths o with
  | some score =>
    .ok (.kept ⟨f.shown index o, score⟩ f.capStyle.blocksWithoutPatch
      (f.lowered.leavesLine index o))
  | none => .error .beyondDoubles

/-- Screens a canonical finding. -/
def screenCanonical (index : DiffIndex) (paths : List String) (o : RefineOptions) (f : Finding) :
    Except LimitError Outcome :=
  if Glob.anyAccepts o.ignore f.path then .ok .ignored
  else if f.isMeaningful then rank index paths o f
  else .ok .empty

/-- Screens a draft. -/
def screen (index : DiffIndex) (paths : List String) (o : RefineOptions) (d : Draft) :
    Except LimitError Outcome :=
  match d.read with
  | .error _ => .ok .empty
  | .ok f => f.toCanonical.bind (screenCanonical index paths o)

end Triage
