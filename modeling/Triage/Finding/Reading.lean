import Triage.Finding.Basic
import Triage.Text.Case

/-!
# Reading findings

Findings as documents. `Finding.ofValue` checks the fields in a fixed order and stops at the first
fault; `Finding.toValue` writes what it reads back. A `Draft` is what a reviewer hands in: a
document still to be checked, or a finding.
-/

namespace Triage

open Vocabulary

/-- A text field that has to be there. -/
def requiredText (field : String) : Option Value → Except FindingError String
  | none => .error (.required field)
  | some v => (v.text?.map .ok).getD (.error (.notText field))

/-- A text field that is empty if it is not there. -/
def optionalText (field : String) : Option Value → Except FindingError String
  | none => .ok ""
  | some v => (v.text?.map .ok).getD (.error (.notText field))

/-- A word of a vocabulary, in any case and between blanks. -/
def requiredWord (α : Type) [Vocabulary α] (field : String) (v : Option Value) :
    Except FindingError α :=
  match v.bind Value.text? with
  | none => .error (.required field)
  | some s =>
    if Text.trim s.toList = [] then .error (.required field)
    else match ofWord? (Text.label s) with
      | some a => .ok a
      | none => .error (.notOneOf field (allWords α) s)

/-- A word of a vocabulary if a field has one. -/
def optionalWord (α : Type) [Vocabulary α] (v : Option Value) : Option α :=
  (v.bind Value.text?).bind fun s => ofWord? (Text.label s)

/-- The side of a finding; it is the right one if none is given. -/
def readSide : Option Value → Except FindingError Side
  | none => .ok .right
  | some v =>
    match v.text? with
    | none => .error (.notText "side")
    | some s =>
      match ofWord? (String.ofList (Text.upper (Text.trim s.toList))) with
      | some side => .ok side
      | none => .error (.badSide s)

/-- The line that a number means, if it is whole and positive. -/
def lineOfNumber? : Number → Option Nat
  | .int n => if 1 ≤ n then some n.toNat else none
  | .real x => (x.toInt?.filter (1 ≤ ·)).map Int.toNat

/-- The line of a finding. -/
def readLine (v : Option Value) : Except FindingError Nat :=
  match (v.bind Value.number?).bind lineOfNumber? with
  | some n => .ok n
  | none => .error .badLine

/-- The kind of a comment: anything that does not spell the summary is inline. -/
def readCommentType (v : Option Value) : CommentType :=
  let shown := ((v.bind Value.unlessVoid).map Value.display).getD ""
  if Text.label shown = word CommentType.summary then .summary else .inline

/-- The patch of a finding. -/
def readPatch : Option Value → Except FindingError (Option String)
  | none => .ok none
  | some v => (v.text?.map (.ok ∘ some)).getD (.error (.notText "suggested_patch"))

namespace Finding

/-- Reads a finding. -/
def ofValue (v : Value) : Except FindingError Finding := do
  unless v.isTable do throw .notTable
  let suggestedPatch ← readPatch (v.getFirst? ["suggested_patch", "suggestedPatch"])
  let id ← optionalText "comment_id" (v.getFirst? ["comment_id", "id"])
  let key ← optionalText "comment_key" (v.getFirst? ["comment_key", "key"])
  let path ← requiredText "path" (v.get? "path")
  let side ← readSide (v.get? "side")
  let line ← readLine (v.get? "line")
  let severity ← requiredWord Severity "severity" (v.get? "severity")
  let category ← requiredWord Category "category" (v.get? "category")
  let title ← requiredText "title" (v.get? "title")
  let body ← requiredText "body" (v.get? "body")
  let evidence ← requiredText "evidence" (v.get? "evidence")
  return {
    id, key, path, side, line, severity, category, title, body, evidence, suggestedPatch
    commentType := readCommentType (v.getFirst? ["comment_type", "commentType"])
    confidence := optionalWord Confidence (v.get? "confidence") }

/-- Writes a finding; a patch or confidence that it lacks is left out. -/
def toValue (f : Finding) : Value :=
  .record <|
    [("comment_id", .text f.id), ("comment_key", .text f.key), ("path", .text f.path),
      ("side", .text (word f.side)), ("line", .nat f.line),
      ("severity", .text (word f.severity)), ("category", .text (word f.category)),
      ("title", .text f.title), ("body", .text f.body), ("evidence", .text f.evidence),
      ("comment_type", .text (word f.commentType))] ++
    (f.suggestedPatch.map fun patch => ("suggested_patch", Value.text patch)).toList ++
    (f.confidence.map fun c => ("confidence", Value.text (word c))).toList

end Finding

/-- What a reviewer hands in. -/
inductive Draft
  | document (v : Value)
  | finding (f : Finding)

/-- The finding that was handed in. -/
def Draft.read : Draft → Except FindingError Finding
  | document v => Finding.ofValue v
  | finding f => .ok f

end Triage
