import Triage.Refinement.Basic

/-!
# Supplements

The findings of a second pass added to those of a first one. A finding is a duplicate if the first
pass says the same of the same file within a few lines, whatever the exact line.
-/

namespace Triage

/-- The lines between two findings within which they can be one. -/
def nearbyLines : Nat := 8

/-- How far two lines are apart. -/
def lineDistance (m n : Nat) : Nat :=
  max m n - min m n

/-- A title as it is compared between passes. -/
def plainTitle (title : String) : String :=
  onChars (fun cs => Text.alnumKey (Text.lower cs)) title

/-- What a finding says, of which file. -/
structure TopicKey where
  path : String
  category : Category
  title : String
  deriving DecidableEq, Repr

/-- What a finding says, at which line of which side of which file. -/
structure PlacedKey where
  topic : TopicKey
  side : Side
  line : Nat
  deriving DecidableEq, Repr

/-- The topic of a finding. -/
def Finding.topicKey (f : Finding) : TopicKey :=
  ⟨Path.relative f.path, f.category, plainTitle f.title⟩

/-- The topic of a finding and its place. -/
def Finding.placedKey (f : Finding) : PlacedKey :=
  ⟨f.topicKey, f.side, f.line⟩

/-- What was said already: at which places, and at which lines on each topic. -/
structure DuplicateIndex where
  placed : List PlacedKey
  lines : OrderedMap TopicKey (List Nat)

namespace DuplicateIndex

/-- The index of nothing. -/
def empty : DuplicateIndex := ⟨[], .empty⟩

/-- The lines at which a topic was brought up. -/
def linesOn (d : DuplicateIndex) (topic : TopicKey) : List Nat :=
  (d.lines.get? topic).getD []

/-- Adds a finding. -/
def add (d : DuplicateIndex) (f : Finding) : DuplicateIndex :=
  ⟨f.placedKey :: d.placed, d.lines.insert f.topicKey (d.linesOn f.topicKey ++ [f.line])⟩

/-- Whether a finding was made already. -/
def isDuplicate (d : DuplicateIndex) (f : Finding) : Bool :=
  f.placedKey ∈ d.placed || (d.linesOn f.topicKey).any fun n => lineDistance n f.line ≤ nearbyLines

end DuplicateIndex

/-- What became of a finding of the second pass. -/
inductive SupplementOutcome
  | invalid
  | lowValue
  | duplicate
  | added (f : Finding)
  deriving DecidableEq, Repr

/-- The findings of both passes, with an account of the second one. -/
structure Supplemented where
  findings : List Finding
  added : Nat
  droppedDuplicates : Nat
  droppedLowValue : Nat
  droppedInvalid : Nat
  deriving DecidableEq, Repr

/-- What becomes of a canonical finding of the second pass. -/
def judgeCanonical (d : DuplicateIndex) (f : Finding) : SupplementOutcome :=
  if f.isMinor then .lowValue
  else if d.isDuplicate f then .duplicate
  else .added f

/-- What becomes of a draft of the second pass. -/
def judge (d : DuplicateIndex) (draft : Draft) : Except LimitError SupplementOutcome :=
  match draft.read with
  | .error _ => .ok .invalid
  | .ok f => f.toCanonical.map (judgeCanonical d)

/-- The index after a draft of the second pass. -/
def DuplicateIndex.after (d : DuplicateIndex) : SupplementOutcome → DuplicateIndex
  | .added f => d.add f
  | _ => d

/-- What becomes of the drafts of the second pass, one after another. -/
def judgeAll (d : DuplicateIndex) : List Draft → Except LimitError (List SupplementOutcome)
  | [] => .ok []
  | draft :: rest => do
    let outcome ← judge d draft
    let outcomes ← judgeAll (d.after outcome) rest
    return outcome :: outcomes

/-- The finding that was added. -/
def SupplementOutcome.finding? : SupplementOutcome → Option Finding
  | added f => some f
  | _ => none

/-- The findings of a first pass with those that a second one added. -/
def Supplemented.ofOutcomes (base : List Finding) (outcomes : List SupplementOutcome) :
    Supplemented :=
  let extra := outcomes.filterMap SupplementOutcome.finding?
  { findings := suffixRepeats (base ++ extra)
    added := extra.length
    droppedDuplicates := outcomes.count .duplicate
    droppedLowValue := outcomes.count .lowValue
    droppedInvalid := outcomes.count .invalid }

/-- Adds the findings of a second pass to those of a first one. -/
def supplement (base : List Finding) (supplemental : List Draft) :
    Except LimitError Supplemented :=
  (judgeAll (base.foldl DuplicateIndex.add .empty) supplemental).map
    (Supplemented.ofOutcomes base)

end Triage
