import Triage.Finding.Reading
import Triage.Limit

/-!
# Run summaries

What a review run says about the change as a whole.
-/

namespace Triage

open Vocabulary

/-- What a summary says about one file. -/
structure FileNote where
  path : String
  summary : String
  risk : Option Risk
  deriving DecidableEq, Repr, Inhabited

/-- A summary of a run. A diagram says something if there is one. -/
structure RunSummary where
  overview : String
  risk : Risk
  keyConcerns : List String
  whatToTest : List String
  confidence : Option Double
  fileNotes : List FileNote
  diagram : Option Value

/-- Why a document is no summary. -/
inductive SummaryError
  | notTable
  | badRisk
  | badFileNote
  /-- a field that should hold several values holds none -/
  | notWalkable
  /-- the confidence is beyond a limit -/
  | limit (e : LimitError)
  deriving DecidableEq, Repr

/-- The text of an error. -/
def SummaryError.message : SummaryError → String
  | notTable => "summary must be an object"
  | badRisk => "summary risk must be one of " ++ Text.quotedList (allWords Risk)
  | badFileNote => "file_breakdown entries need a path"
  | notWalkable => "a field cannot be walked through"
  | limit e => e.message

/-- The values in a field; a field that says nothing has none. -/
def fieldElements (v : Option Value) : Except SummaryError (List Value) :=
  match v.bind Value.unlessVoid with
  | none => .ok []
  | some w => (w.elements?.map .ok).getD (.error .notWalkable)

/-- Reads a confidence; what is no number is none. -/
def readConfidence (v : Option Value) : Except SummaryError (Option Double) :=
  match v.bind Value.number? with
  | none => .ok none
  | some n => (n.toDouble?.map (.ok ∘ some)).getD (.error (.limit .beyondDoubles))

/-- Reads a note on a file. -/
def FileNote.ofValue (v : Value) : Except SummaryError FileNote :=
  match (v.get? "path").bind Value.text? with
  | none => .error .badFileNote
  | some path => .ok ⟨path, v.displayField "summary", optionalWord Risk (v.get? "risk")⟩

/-- Writes a note on a file; a risk that it lacks is left out. -/
def FileNote.toValue (n : FileNote) : Value :=
  .record ([("path", .text n.path), ("summary", .text n.summary)] ++
    (n.risk.map fun r => ("risk", Value.text (word r))).toList)

namespace RunSummary

/-- Reads a summary. -/
def ofValue (v : Value) : Except SummaryError RunSummary := do
  unless v.isTable do throw .notTable
  match optionalWord Risk (v.get? "risk") with
  | none => throw .badRisk
  | some risk =>
    let noteValues ← fieldElements (v.get? "file_breakdown")
    let fileNotes ← noteValues.mapM FileNote.ofValue
    let keyConcerns ← fieldElements (v.get? "key_concerns")
    let whatToTest ← fieldElements (v.get? "what_to_test")
    let confidence ← readConfidence (v.get? "confidence")
    return {
      overview := v.displayField "overview"
      risk
      keyConcerns := keyConcerns.map Value.display
      whatToTest := whatToTest.map Value.display
      confidence
      fileNotes
      diagram := (v.get? "diagram_mermaid").bind Value.unlessVoid }

/-- Writes a summary; a confidence or diagram that it lacks is left out. -/
def toValue (s : RunSummary) : Value :=
  .record <|
    [("overview", .text s.overview), ("risk", .text (word s.risk)),
      ("key_concerns", .list (s.keyConcerns.map .text)),
      ("what_to_test", .list (s.whatToTest.map .text)),
      ("file_breakdown", .list (s.fileNotes.map FileNote.toValue))] ++
    (s.confidence.map fun x => ("confidence", Value.real x)).toList ++
    (s.diagram.map fun d => ("diagram_mermaid", d)).toList

end RunSummary

end Triage
