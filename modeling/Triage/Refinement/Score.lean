import Triage.Feedback.Policy
import Triage.Finding.Basic
import Triage.Settings.Basic

/-!
# Scores

How urgent a finding is: what its severity weighs, discounted by the doubts of its reviewer, and
points for its category, patch, evidence, place and the feedback on findings like it.
-/

namespace Triage

/-- The points for evidence: one for each stretch of characters, up to a cap. -/
def Weights.evidencePoints (w : Weights) (evidence : String) : Nat :=
  min w.evidenceBoostCap (evidence.length / w.evidenceCharsPerPoint)

/-- The weight of a confidence, given or not. -/
def Weights.confidenceOf (w : Weights) (c : Option Confidence) : Number :=
  (c.map w.confidence).getD w.defaultConfidence

/-- A number with another one added under a condition. -/
def Number.addIf? (x : Number) (condition : Bool) (y : Number) : Option Number :=
  if condition then x.add? y else some x

/-- A number with another one subtracted under a condition. -/
def Number.subIf? (x : Number) (condition : Bool) (y : Number) : Option Number :=
  if condition then x.sub? y else some x

/-- The score of a finding, the parts added from left to right; `none` if an integer among them is
beyond the doubles that it meets. -/
def priorityScore (w : Weights) (policy : FeedbackPolicy) (inDiff inChangedPath : Bool)
    (f : Finding) : Option Number := do
  let category := Vocabulary.word f.category
  let discounted ← (w.severity f.severity).mul? (w.confidenceOf f.confidence)
  let base ← discounted.add? (w.category f.category)
  let withPatch ← base.addIf? f.hasPatch w.suggestionBoost
  let withEvidence ← withPatch.add? (.int (w.evidencePoints f.evidence))
  let withDiff ← withEvidence.addIf? inDiff w.inDiffBoost
  let withPath ← withDiff.addIf? inChangedPath w.changedPathBoost
  let withPraise ← withPath.addIf? (category ∈ policy.positive) w.feedbackBoost
  withPraise.subIf? (category ∈ policy.negative) w.feedbackPenalty

end Triage
