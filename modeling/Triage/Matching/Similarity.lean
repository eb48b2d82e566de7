import Triage.Double.Decimal
import Triage.Finding.Canonical
import Triage.PriorFinding
import Triage.Text.Tokens

/-!
# Similarity

How well a finding restates a prior one: by the words that their titles and bodies share, by the
lines between them, and by side and severity. Among the prior findings that nobody claimed, the
first one of the highest score is the one that a finding restates (`semanticMatch`).
-/

namespace Triage

/-- The share of common members among all members of two lists without repetitions. -/
def jaccard (left right : List String) : Double :=
  if left.isEmpty || right.isEmpty then 0
  else
    let common := left.countP (· ∈ right)
    .ofRatio common (left.length + right.length - common)

/-- How well two lines agree that are so far apart. -/
def lineProximity (distance : Int) : Double :=
  if distance ≤ 2 then 1
  else if distance ≤ 6 then .ofDecimal 9 (-1)
  else if distance ≤ 12 then .ofDecimal 75 (-2)
  else if distance ≤ 25 then .ofDecimal 55 (-2)
  else .ofDecimal 3 (-1)

/-- The likeness of titles that is enough at any distance. -/
def strongTitle : Double := .ofDecimal 5 (-1)

/-- The likeness of titles that is enough on lines that are close. -/
def closeTitle : Double := .ofDecimal 34 (-2)

/-- The lines between findings that are close. -/
def closeLines : Nat := 8

/-- The score that a match needs. -/
def minMatchScore : Double := .ofDecimal 5 (-1)

/-- What agreement is worth where two things are the same or not. -/
def agreement (same : Bool) : Double :=
  if same then 1 else .ofDecimal 7 (-1)

/-- A finding and a prior one side by side. -/
structure Comparison where
  title : Double
  body : Double
  distance : Nat
  sameSide : Bool
  sameSeverity : Bool
  deriving DecidableEq, Repr

/-- Compares a finding with a prior one. -/
def compareWith (f : Finding) (p : PriorFinding) : Comparison where
  title := jaccard (Text.tokens f.title) (Text.tokens p.title)
  body := jaccard (Text.tokens f.body) (Text.tokens p.body)
  distance := max f.line p.line - min f.line p.line
  sameSide := p.side = f.side
  sameSeverity := p.severity = f.severity

namespace Comparison

/-- Whether the titles are like enough, given how close the lines are. -/
def isPlausible (c : Comparison) : Bool :=
  0 < c.title &&
    (strongTitle ≤ c.title || (closeTitle ≤ c.title && c.distance ≤ closeLines))

/-- How well the two agree, the parts weighed and added from left to right. -/
def score (c : Comparison) : Double :=
  c.title * .ofDecimal 64 (-2) + c.body * .ofDecimal 16 (-2) +
    lineProximity c.distance * .ofDecimal 14 (-2) +
    agreement c.sameSide * .ofDecimal 4 (-2) + agreement c.sameSeverity * .ofDecimal 2 (-2)

end Comparison

/-- Whether a prior finding is about the same kind of issue in the same file. -/
def sameTopic (f : Finding) (p : PriorFinding) : Bool :=
  Path.relative p.path = Path.relative f.path && p.category = f.category

/-- The score of a prior finding as the one that a finding restates; `none` if it cannot be. -/
def matchScore? (f : Finding) (p : PriorFinding) : Option Double :=
  let c := compareWith f p
  if sameTopic f p && c.isPlausible then some c.score else none

/-! ### The best match -/

/-- A prior finding with its score. -/
structure Contender where
  prior : PriorFinding
  score : Double

/-- The better of a contender and the next one: the next one has to be strictly better, and better
than nothing. -/
def better (best : Option Contender) (next : Contender) : Option Contender :=
  let bar := (best.map Contender.score).getD 0
  if next.score ≤ bar then best else some next

/-- The prior findings that a finding may restate. -/
def contenders (f : Finding) (candidates : List PriorFinding) (claimed : List StoreId) :
    List Contender :=
  (candidates.filter fun p => p.id ∉ claimed).filterMap fun p =>
    (matchScore? f p).map fun score => ⟨p, score⟩

/-- The prior finding that a finding restates. -/
def semanticMatch (f : Finding) (candidates : List PriorFinding) (claimed : List StoreId) :
    Option PriorFinding :=
  (((contenders f candidates claimed).foldl better none).filter
    fun c => minMatchScore ≤ c.score).map Contender.prior

end Triage
