import Triage.Number
import Triage.Double.Decimal
import Triage.Vocabulary

/-!
# Settings

The settings of a review: how much is shown, what the parts of a score weigh, which kinds of comment
are allowed, and which paths are left out. The defaults are the values of `Settings.default`.
-/

namespace Triage

/-- The most that is shown of each kind. -/
structure Limits where
  maxInlineComments : Int
  maxKeyConcerns : Int
  maxCoverageTargets : Int
  deriving DecidableEq, Repr

/-- A count that is not zero. -/
abbrev Positive := { n : Nat // 0 < n }

/-- What the parts of a score weigh. -/
structure Weights where
  severity : Severity → Number
  confidence : Confidence → Number
  defaultConfidence : Number
  category : Category → Number
  suggestionBoost : Number
  evidenceBoostCap : Nat
  evidenceCharsPerPoint : Positive
  inDiffBoost : Number
  changedPathBoost : Number
  feedbackBoost : Number
  feedbackPenalty : Number

/-- The settings of a review. -/
structure Settings where
  limits : Limits
  weights : Weights
  summaryOnly : Bool
  allowedTypes : List CommentType
  ignore : List String

/-- A double of hundredths as a number. -/
def hundredths (n : Nat) : Number := .real (.ofDecimal n (-2))

/-- The limits unless a setting says otherwise. -/
def Limits.default : Limits := ⟨20, 5, 8⟩

/-- The weights unless a setting says otherwise. -/
def Weights.default : Weights where
  severity
    | .blocking => 100
    | .important => 65
    | .nit => 25
  confidence
    | .high => hundredths 100
    | .medium => hundredths 70
    | .low => hundredths 35
  defaultConfidence := hundredths 70
  category
    | .security => 25
    | .bug => 20
    | .performance => 15
    | .testing => 12
    | .maintainability => 8
    | .style => 2
  suggestionBoost := 6
  evidenceBoostCap := 6
  evidenceCharsPerPoint := ⟨80, by decide⟩
  inDiffBoost := 6
  changedPathBoost := 4
  feedbackBoost := 8
  feedbackPenalty := 18

/-- The settings of a review that sets nothing. -/
def Settings.default : Settings where
  limits := .default
  weights := .default
  summaryOnly := false
  allowedTypes := [.inline, .summary]
  ignore := ["node_modules/**", "dist/**"]

end Triage
