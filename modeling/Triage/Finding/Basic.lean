import Triage.Value
import Triage.Vocabulary

/-!
# Findings

A finding is one review comment: where it is, how serious, what it says and why. `FindingError`
tells why a document is none.
-/

namespace Triage

/-- A review comment, for one line of a diff or for the summary. -/
structure Finding where
  id : String
  key : String
  path : String
  side : Side
  line : Nat
  severity : Severity
  category : Category
  title : String
  body : String
  evidence : String
  suggestedPatch : Option String
  commentType : CommentType
  confidence : Option Confidence
  deriving DecidableEq, Repr, Inhabited

/-- Whether the comment goes into the summary. -/
def Finding.isSummary (f : Finding) : Bool :=
  f.commentType = .summary

/-- Whether the finding suggests a patch that is not empty. -/
def Finding.hasPatch (f : Finding) : Bool :=
  f.suggestedPatch.any (· ≠ "")

/-- Whether a nit is one of style, or one that its reviewer doubts. -/
def Finding.isMinor (f : Finding) : Bool :=
  f.severity = .nit && (f.category = .style || f.confidence = some .low)

/-- Why a document is no finding. -/
inductive FindingError
  /-- a finding is not a table -/
  | notTable
  /-- an existing finding is not a table -/
  | existingNotTable
  /-- the id of an existing finding is neither an integer nor a text -/
  | badId
  | required (field : String)
  | notText (field : String)
  | notOneOf (field : String) (words : List String) (got : String)
  | badSide (got : String)
  | badLine
  deriving DecidableEq, Repr

/-- The text of an error. -/
def FindingError.message : FindingError → String
  | notTable => "finding must be an object"
  | existingNotTable => "existing finding must be an object"
  | badId => "existing finding id must be an integer or string"
  | required field => field ++ " is required"
  | notText field => field ++ " must be a string"
  | notOneOf field words got =>
    field ++ " must be one of " ++ Text.quotedList words ++ ", got " ++ Text.quoted got
  | badSide got => "side must be RIGHT or LEFT, got " ++ Text.quoted got
  | badLine => "line must be a positive integer"

end Triage
