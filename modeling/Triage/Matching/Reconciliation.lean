import Triage.Diff.Index
import Triage.Matching.Similarity
import Triage.Refinement.Screening

/-!
# Reconciliation

The findings of a run against those of an earlier one: each of them updates a prior finding or is
new, and a prior finding that none of them updates is fixed, or obsolete if its file is no longer in
the diff. What was matched can be stored for the next run.
-/

namespace Triage

/-- How a prior finding was known again. -/
inductive MatchMethod
  | exact
  | semantic
  deriving DecidableEq, Repr

instance : Vocabulary MatchMethod where
  all := [.exact, .semantic]
  word
    | .exact => "exact"
    | .semantic => "semantic"

/-- A finding with its hashes, and the prior finding that it updates. -/
structure FindingMatch where
  finding : Finding
  fingerprint : String
  hunkHash : String
  contextHash : String
  matchKey : String
  prior : Option (PriorFinding × MatchMethod)

/-- The result of a reconciliation. -/
structure Reconciliation where
  matched : List FindingMatch
  fixed : List PriorFinding
  obsolete : List PriorFinding

/-- The id of the prior finding that was matched. -/
def FindingMatch.claim (m : FindingMatch) : Option StoreId :=
  m.prior.map (·.1.id)

/-- The first prior finding that was stored with a match key. -/
def firstStored (prior : List PriorFinding) (matchKey : String) : Option PriorFinding :=
  prior.find? fun p => p.storedMatchKey = some matchKey

/-- The prior finding that a finding with a match key updates: the one stored with that key unless
it is claimed, and otherwise the one that it restates. -/
def findPrior (prior : List PriorFinding) (claimed : List StoreId) (matchKey : String)
    (f : Finding) : Option (PriorFinding × MatchMethod) :=
  let restated := (semanticMatch f prior claimed).map fun p => (p, MatchMethod.semantic)
  match firstStored prior matchKey with
  | some p => if p.id ∈ claimed then restated else some (p, .exact)
  | none => restated

/-- Matches one finding. -/
def matchFinding (prior : List PriorFinding) (index : DiffIndex) (claimed : List StoreId)
    (f : Finding) : FindingMatch :=
  let hunkHash := index.hunkHash f.anchor
  let matchKey := f.matchKey hunkHash
  { finding := f
    fingerprint := f.fingerprint
    hunkHash
    contextHash := index.contextHash f.anchor
    matchKey
    prior := findPrior prior claimed matchKey f }

/-- Matches findings one after another; what one of them claims no later one gets. -/
def matchAll (prior : List PriorFinding) (index : DiffIndex) (claimed : List StoreId) :
    List Finding → List FindingMatch
  | [] => []
  | f :: rest =>
    let m := matchFinding prior index claimed f
    m :: matchAll prior index (m.claim.toList ++ claimed) rest

/-- The result of matches. -/
def Reconciliation.ofMatches (matched : List FindingMatch) (prior : List PriorFinding)
    (index : DiffIndex) : Reconciliation :=
  let claimed := matched.filterMap FindingMatch.claim
  let unclaimed := prior.filter fun p => p.id ∉ claimed
  { matched
    fixed := unclaimed.filter fun p => index.hasPath p.path
    obsolete := unclaimed.filter fun p => !index.hasPath p.path }

/-- Whether the key and the path of a finding have bytes, of which its fingerprint is made. -/
def Finding.hasFingerprint (f : Finding) : Bool :=
  Text.isEncodable f.key && Text.isEncodable f.path

/-- Reconciles findings with prior ones. -/
def reconcile (findings : List Finding) (prior : List PriorFinding) (index : DiffIndex) :
    Except LimitError Reconciliation :=
  if findings.all Finding.hasFingerprint then
    .ok (.ofMatches (matchAll prior index [] findings) prior index)
  else .error .unencodable

/-! ### Storing -/

/-- A match as the next run will find it, under an id. -/
def FindingMatch.toPrior (m : FindingMatch) (id : StoreId) : PriorFinding where
  id := id
  path := m.finding.path
  line := m.finding.line
  side := m.finding.side
  severity := m.finding.severity
  category := m.finding.category
  title := m.finding.title
  body := m.finding.body
  fingerprint := some (.text m.fingerprint)
  hunkHash := some (.text m.hunkHash)

/-- The store after a run, with the next unused id: a match keeps the id that it claimed, and a new
finding gets the next unused one. -/
def store (next : Int) : List FindingMatch → List PriorFinding × Int
  | [] => ([], next)
  | m :: rest =>
    match m.claim with
    | some id =>
      let (stored, last) := store next rest
      (m.toPrior id :: stored, last)
    | none =>
      let (stored, last) := store (next + 1) rest
      (m.toPrior (.number next) :: stored, last)

end Triage
