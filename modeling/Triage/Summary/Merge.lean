import Triage.OrderedMap
import Triage.Path
import Triage.Summary.Basic

/-!
# Merging summaries

The summary of two passes over one change. The risk is the higher one, the confidence the lower one,
lists are united up to a cap, and of two notes on a file the longer text and the higher risk stay.
-/

namespace Triage

/-- The concerns that a merged summary lists unless a setting says otherwise. -/
def defaultMaxKeyConcerns : Int := 5

/-- The higher of two risks. -/
def Risk.higher (a b : Risk) : Risk :=
  if a.rank < b.rank then b else a

/-- The higher of two risks that may be missing. -/
def higherRisk : Option Risk → Option Risk → Option Risk
  | some a, some b => some (a.higher b)
  | some a, none => some a
  | none, b => b

/-- The lower of two confidences that may be missing. -/
def lowerConfidence : Option Double → Option Double → Option Double
  | some a, some b => some (if b < a then b else a)
  | some a, none => some a
  | none, b => b

/-- The first texts of a list that say something, each once and without blanks around it. -/
def unionTexts (limit : Nat) (texts : List String) : List String :=
  (((texts.map Text.trimmed).filter (· ≠ "")).eraseDups).take limit

namespace FileNote

/-- Two notes on one file as one, under the path of the first. -/
def combine (a b : FileNote) : FileNote :=
  ⟨a.path, if b.summary.length ≤ a.summary.length then a.summary else b.summary,
    higherRisk a.risk b.risk⟩

end FileNote

/-- Notes by the path that they are about. -/
abbrev NoteMap := OrderedMap String FileNote

/-- Puts a note in the place of any other one on its file. -/
def NoteMap.replace (m : NoteMap) (n : FileNote) : NoteMap :=
  m.insert (Path.relative n.path) n

/-- Combines a note with the one on its file, if there is one. -/
def NoteMap.absorb (m : NoteMap) (n : FileNote) : NoteMap :=
  let path := Path.relative n.path
  m.insert path (((m.get? path).map (·.combine n)).getD n)

/-- The notes of two summaries, one for each file. -/
def mergeNotes (base supplemental : List FileNote) : List FileNote :=
  (supplemental.foldl NoteMap.absorb (base.foldl NoteMap.replace .empty)).values

/-- The summary of two passes. -/
def RunSummary.merge (base supplemental : RunSummary) (maxKeyConcerns : Int) : RunSummary :=
  { overview := base.overview
    risk := base.risk.higher supplemental.risk
    keyConcerns := unionTexts (max 1 maxKeyConcerns).toNat
      (base.keyConcerns ++ supplemental.keyConcerns)
    whatToTest := unionTexts (max 4 (maxKeyConcerns * 2)).toNat
      (base.whatToTest ++ supplemental.whatToTest)
    confidence := lowerConfidence base.confidence supplemental.confidence
    fileNotes := mergeNotes base.fileNotes supplemental.fileNotes
    diagram := base.diagram.or supplemental.diagram }

end Triage
