import Triage.Value

/-!
# Feedback policies

What reviewers liked and disliked, by category of finding.
-/

namespace Triage

/-- The categories that reviewers welcome, and those that they reject. -/
structure FeedbackPolicy where
  positive : List String
  negative : List String
  deriving DecidableEq, Repr, Inhabited

/-- Why a document is no feedback policy. -/
inductive PolicyError
  | notTable
  | notLists
  deriving DecidableEq, Repr

/-- The text of an error. -/
def PolicyError.message : PolicyError → String
  | notTable => "feedback policy must be an object"
  | notLists => "feedback policy categories must be lists"

/-- The texts of a list; a field that says nothing is the empty list. -/
def optionalTexts (v : Option Value) : Except PolicyError (List String) :=
  match v.bind Value.unlessVoid with
  | none => .ok []
  | some (.list items) => .ok (items.map Value.display)
  | some _ => .error .notLists

namespace FeedbackPolicy

/-- The policy that changes nothing. -/
def neutral : FeedbackPolicy := ⟨[], []⟩

/-- Reads a policy; no document is the neutral one. -/
def ofValue (v : Value) : Except PolicyError FeedbackPolicy := do
  if v.isNull then return neutral
  unless v.isTable do throw .notTable
  let positive ← optionalTexts (v.getFirst? ["positive_categories", "positiveCategories"])
  let negative ← optionalTexts (v.getFirst? ["negative_categories", "negativeCategories"])
  return ⟨positive, negative⟩

end FeedbackPolicy

end Triage
