import Triage.Double.Decimal
import Triage.Refinement.Screening

/-!
# Coverage

Which changed files a first pass passed over, and whether a second pass over them is worth while.
-/

namespace Triage

/-- The churn from which a file is risky. -/
def highChurn : Int := 250

/-- The churn from which a file is somewhat risky. -/
def mediumChurn : Int := 80

/-- The targets of a plan unless a setting says otherwise. -/
def defaultMaxTargets : Int := 8

/-- The risk of a change of so many lines. -/
def riskOfChurn (churn : Int) : Risk :=
  if highChurn ≤ churn then .high
  else if mediumChurn ≤ churn then .medium
  else .low

/-- A file for a second pass. -/
structure CoverageTarget where
  path : String
  risk : Risk
  reason : String
  additions : Option Int
  deletions : Option Int
  deriving DecidableEq, Repr

/-- How far a first pass went. -/
structure CoverageStats where
  totalChanged : Nat
  coveredChanged : Nat
  uncoveredChanged : Nat
  coverageRatio : Double
  findingsOnChanged : Nat
  minExpectedFindings : Nat
  deriving DecidableEq, Repr

/-- Whether a second pass should run, and over which files. -/
structure CoveragePlan where
  shouldRun : Bool
  targets : List CoverageTarget
  stats : CoverageStats
  riskByPath : List (String × Risk)
  deriving DecidableEq, Repr

/-- Whether a finding counts as a look at its file. -/
def Finding.countsAsCoverage (f : Finding) : Bool :=
  f.commentType = .inline && !f.isMinor

/-! ### Changed files -/

/-- Two records of one file: what the later one does not know is taken from the earlier one. -/
def ChangedFile.update (path : String) (earlier : Option ChangedFile) (later : ChangedFile) :
    ChangedFile where
  path := path
  additions := later.additions.or (earlier.bind ChangedFile.additions)
  deletions := later.deletions.or (earlier.bind ChangedFile.deletions)
  risk := later.risk.or (earlier.bind ChangedFile.risk)
  status := (later.status.filter (· ≠ "")).or (earlier.bind ChangedFile.status)

/-- Changed files by path. -/
abbrev ChangedFiles := OrderedMap String ChangedFile

/-- Adds a record of a file; one without a path is passed over. -/
def ChangedFiles.record (m : ChangedFiles) (file : ChangedFile) : ChangedFiles :=
  let path := Path.relative file.path
  if path = "" then m else m.insert path (.update path (m.get? path) file)

/-- Records of files, those of one path put together. -/
def ChangedFiles.ofRecords (files : List ChangedFile) : ChangedFiles :=
  files.foldl ChangedFiles.record .empty

/-- The risk of a file: the one that is known, or else that of its churn. -/
def ChangedFile.tier (f : ChangedFile) : Risk :=
  f.risk.getD (riskOfChurn f.churn)

/-! ### Targets -/

/-- How urgent a second look at a file is: by risk, then by churn up to 99 lines. -/
def ChangedFile.urgency (f : ChangedFile) : Int :=
  f.tier.rank * 100 + min 99 f.churn

/-- Whether a file comes before another one, or may: by urgency, then by path. -/
def ChangedFile.isBefore (a b : ChangedFile) : Bool :=
  if b.urgency < a.urgency then true
  else if a.urgency < b.urgency then false
  else a.path ≤ b.path

/-- Why a file is a target. -/
def targetReason (risk : Risk) (churn : Int) : String :=
  let size := " (" ++ toString churn ++ " lines changed)"
  match risk with
  | .high => "high churn" ++ size
  | .medium => "medium churn" ++ size
  | .low => if 0 < churn then "uncovered changed file" ++ size else "uncovered changed file"

/-- Whether the reason why a file is a target can be written: it tells no churn, or a short one. -/
def ChangedFile.hasReason (f : ChangedFile) : Bool :=
  (f.tier = .low && f.churn ≤ 0) || isWritable f.churn

/-- A file as a target. -/
def ChangedFile.toTarget (f : ChangedFile) : CoverageTarget :=
  ⟨f.path, f.tier, targetReason f.tier f.churn, f.additions, f.deletions⟩

/-- The most targets that a plan has. -/
def targetLimit (maxTargets : Int) : Nat :=
  (max 2 (min 16 maxTargets)).toNat

/-! ### The plan -/

/-- The share of files that a pass should cover. -/
def minCoverageRatio : Double := .ofDecimal 75 (-2)

/-- The findings that a pass over so many files should have: one for two files, but two to six. -/
def minExpectedFindings (total : Nat) : Nat :=
  max 2 (min 6 ((total + 1) / 2))

/-- The plan for a change of no files. -/
def CoveragePlan.empty : CoveragePlan :=
  ⟨false, [], ⟨0, 0, 0, 1, 0, 0⟩, []⟩

/-- The changed paths that findings look at, one for each finding that counts. -/
def coveredPaths (changed : ChangedFiles) (findings : List Finding) : List String :=
  ((findings.filter (·.countsAsCoverage)).map fun f => Path.relative f.path).filter
    (changed.contains ·)

/-- The changed files that no finding looks at. -/
def uncoveredFiles (changed : ChangedFiles) (looks : List String) : List ChangedFile :=
  changed.values.filter fun f => f.path ∉ looks

/-- The files that are targets, the most urgent first. -/
def targetFiles (maxTargets : Int) (uncovered : List ChangedFile) : List ChangedFile :=
  (uncovered.mergeSort ChangedFile.isBefore).take (targetLimit maxTargets)

/-- The plan for changed files, given the looks at them and the targets. -/
def CoveragePlan.ofTargets (changed : ChangedFiles) (looks : List String)
    (targets : List ChangedFile) : CoveragePlan :=
  let uncovered := (uncoveredFiles changed looks).length
  let total := changed.entries.length
  let covered := looks.eraseDups.length
  let ratio := Double.ofRatio covered total
  let expected := minExpectedFindings total
  { shouldRun := 2 ≤ total && 0 < uncovered &&
      (ratio < minCoverageRatio || looks.length < expected)
    targets := targets.map ChangedFile.toTarget
    stats := ⟨total, covered, uncovered, ratio, looks.length, expected⟩
    riskByPath := changed.entries.map fun (path, f) => (path, f.tier) }

/-- The plan after a first pass. -/
def coveragePlan (files : List ChangedFile) (findings : List Finding) (maxTargets : Int) :
    Except LimitError CoveragePlan :=
  let changed := ChangedFiles.ofRecords files
  if changed.entries.isEmpty then .ok .empty
  else
    let looks := coveredPaths changed findings
    let targets := targetFiles maxTargets (uncoveredFiles changed looks)
    if targets.all ChangedFile.hasReason then .ok (.ofTargets changed looks targets)
    else .error .tooLongToWrite

end Triage
