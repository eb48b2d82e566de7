import Triage.Settings.Basic
import Triage.Text.Blank
import Triage.Value
import Triage.Yaml.Document

/-!
# Reading settings

Settings as documents, which stand in YAML files. A field that is missing or has no value keeps its
default, one with a wrong value is an error, and unknown fields are passed over, but not in a table
of weights.
-/

namespace Triage

open Vocabulary

/-- Why a document is no settings. -/
inductive SettingsError
  | notMapping (place : String)
  | notBoolean (place : String)
  | notInteger (place : String)
  /-- an integer that is not positive -/
  | tooSmall (place : String)
  | notNumber (place : String)
  | negative (place : String)
  | unknownKey (place : String) (key : Scalar)
  | badTypeList
  | badType (index : Nat)
  | ignoreNotList
  | badGlob (index : Nat)
  /-- an unknown key is beyond a limit -/
  | limit (e : LimitError)
  | missingFile (name : String)
  | badMarkup (name : String)
  /-- a scalar in the file does not mean what its tag says -/
  | badScalar (f : Yaml.Fault)
  /-- the file is not text -/
  | undecodable
  deriving DecidableEq, Repr

/-- The text of an error. -/
def SettingsError.message : SettingsError → String
  | notMapping place => place ++ ": expected mapping"
  | notBoolean place => place ++ ": expected boolean"
  | notInteger place => place ++ ": expected integer"
  | tooSmall place => place ++ ": must be >= 1"
  | notNumber place => place ++ ": expected number"
  | negative place => place ++ ": must be >= 0"
  | unknownKey place key => place ++ ": unknown key " ++ key.literal
  | badTypeList => "comment_types.allow: expected non-empty list"
  | badType index =>
    "comment_types.allow[" ++ toString index ++ "]: must be one of " ++
      Text.quotedList (allWords CommentType)
  | ignoreNotList => "ignore: expected list"
  | badGlob index => "ignore[" ++ toString index ++ "]: expected non-empty string"
  | limit e => e.message
  | missingFile name => "missing config file: " ++ name
  | badMarkup name => "invalid YAML in " ++ name
  | badScalar f => f.message
  | undecodable => "the config file is not text"

/-- The result of reading a part of the settings. -/
abbrev Reading (α : Type) := Except SettingsError α

/-- A section, which has to be a table if it is there. -/
def section? (place : String) (v : Option Value) : Reading (Option Value) :=
  match v with
  | none => .ok none
  | some w => if w.isTable then .ok (some w) else .error (.notMapping place)

/-- A positive integer. -/
def positive (place : String) (v : Value) : Reading Positive :=
  match v.int? with
  | none => .error (.notInteger place)
  | some n => if h : n < 1 then .error (.tooSmall place) else .ok ⟨n.toNat, by omega⟩

/-- A positive integer, as a natural number. -/
def positiveInt (place : String) (v : Value) : Reading Nat :=
  (positive place v).map Subtype.val

/-- A number that is not negative. -/
def weight (place : String) (v : Value) : Reading Number :=
  match v.number? with
  | none => .error (.notNumber place)
  | some x => if x < 0 then .error (.negative place) else .ok x

/-- A field that may be missing, at its place under a section. -/
def field (read : String → Value → Reading α) (sectionName : String) (v : Value) (name : String)
    (default : α) : Reading α :=
  match v.get? name with
  | none => .ok default
  | some w => read (sectionName ++ "." ++ name) w

/-- Reads the limits. -/
def Limits.ofValue (v : Option Value) : Reading Limits := do
  match ← section? "limits" v with
  | none => return .default
  | some v =>
    let inlineComments ← field positiveInt "limits" v "max_inline_comments" 20
    let keyConcerns ← field positiveInt "limits" v "max_key_concerns" 5
    let coverageTargets ← field positiveInt "limits" v "max_coverage_targets" 8
    return ⟨inlineComments, keyConcerns, coverageTargets⟩

/-- The error of a key that a table of weights does not have. An integer may be too long to be
shown. -/
def unknownKeyError (place : String) (key : Scalar) : SettingsError :=
  match key with
  | .int n => if isWritable n then .unknownKey place key else .limit .tooLongToWrite
  | _ => .unknownKey place key

/-- Changes the entries of a table of weights one after another. -/
def overrideWeights [Vocabulary α] [DecidableEq α] (place : String) (base : α → Number) :
    List (Scalar × Value) → Reading (α → Number)
  | [] => .ok base
  | (key, v) :: rest =>
    match key with
    | .text s =>
      match ofWord? (α := α) s with
      | some a => do
        let x ← weight (place ++ "." ++ s) v
        overrideWeights place (fun b => if b = a then x else base b) rest
      | none => .error (unknownKeyError place key)
    | _ => .error (unknownKeyError place key)

/-- A table of weights over a default one. -/
def weightTable [Vocabulary α] [DecidableEq α] (place : String) (v : Option Value)
    (base : α → Number) : Reading (α → Number) :=
  match v with
  | none => .ok base
  | some (.table entries) => overrideWeights place base entries
  | some _ => .error (.notMapping place)

/-- Reads the weights. -/
def Weights.ofValue (v : Option Value) : Reading Weights := do
  match ← section? "scoring" v with
  | none => return .default
  | some v =>
    let d := Weights.default
    let severity ← weightTable "scoring.severity" (v.get? "severity") d.severity
    let confidence ← weightTable "scoring.confidence" (v.get? "confidence") d.confidence
    let category ← weightTable "scoring.category" (v.get? "category") d.category
    let number := field weight "scoring" v
    let defaultConfidence ← number "default_confidence" d.defaultConfidence
    let suggestionBoost ← number "suggestion_boost" d.suggestionBoost
    let inDiffBoost ← number "in_diff_boost" d.inDiffBoost
    let changedPathBoost ← number "changed_path_boost" d.changedPathBoost
    let feedbackBoost ← number "feedback_boost" d.feedbackBoost
    let feedbackPenalty ← number "feedback_penalty" d.feedbackPenalty
    let evidenceBoostCap ←
      field positiveInt "scoring" v "evidence_boost_cap" d.evidenceBoostCap
    let evidenceCharsPerPoint ←
      field positive "scoring" v "evidence_chars_per_point" d.evidenceCharsPerPoint
    return {
      severity, confidence, defaultConfidence, category, suggestionBoost, evidenceBoostCap
      evidenceCharsPerPoint, inDiffBoost, changedPathBoost, feedbackBoost, feedbackPenalty }

/-- Reads whether every comment goes into the summary. -/
def readSummaryOnly (v : Option Value) : Reading Bool := do
  match ← section? "output" v with
  | none => return false
  | some v =>
    match v.get? "summary_only" with
    | none => return false
    | some (.scalar (.bool b)) => return b
    | some _ => throw (.notBoolean "output.summary_only")

/-- Reads kinds of comment, each of them once; `index` is the place of the first one. -/
def readTypes (index : Nat) (known : List CommentType) :
    List Value → Reading (List CommentType)
  | [] => .ok known
  | v :: rest =>
    match v.text?.bind ofWord? with
    | none => .error (.badType index)
    | some t => readTypes (index + 1) (if t ∈ known then known else known ++ [t]) rest

/-- Reads the kinds of comment that are allowed. -/
def readAllowedTypes (v : Option Value) : Reading (List CommentType) := do
  match ← section? "comment_types" v with
  | none => return [.inline, .summary]
  | some v =>
    match v.get? "allow" with
    | none => return [.inline, .summary]
    | some (.list []) => throw .badTypeList
    | some (.list items) => readTypes 0 [] items
    | some _ => throw .badTypeList

/-- Reads globs without the blanks around them; `index` is the place of the first one. -/
def readGlobs (index : Nat) : List Value → Reading (List String)
  | [] => .ok []
  | v :: rest =>
    match v.text?.map Text.trimmed with
    | none => .error (.badGlob index)
    | some "" => .error (.badGlob index)
    | some glob => (readGlobs (index + 1) rest).map (glob :: ·)

/-- Reads the paths that are left out. -/
def readIgnore : Option Value → Reading (List String)
  | none => .ok Settings.default.ignore
  | some (.list items) => readGlobs 0 items
  | some _ => .error .ignoreNotList

/-- Reads settings; no document sets nothing. -/
def Settings.ofValue (v : Value) : Reading Settings := do
  if v.isNull then return .default
  unless v.isTable do throw (.notMapping "config")
  let limits ← Limits.ofValue (v.get? "limits")
  let weights ← Weights.ofValue (v.get? "scoring")
  let summaryOnly ← readSummaryOnly (v.get? "output")
  let allowedTypes ← readAllowedTypes (v.get? "comment_types")
  let ignore ← readIgnore (v.get? "ignore")
  return { limits, weights, summaryOnly, allowedTypes, ignore }

/-! ### Files -/

/-- The error of a file without a value. -/
def SettingsError.ofFault (name : String) : Yaml.Fault → SettingsError
  | .malformed => badMarkup name
  | f => badScalar f

/-- Reads the settings in the text of a file; `none` is a file that does not exist. -/
def Settings.ofFile [Nesting] (name : String) (text : Option String) : Reading Settings :=
  match text with
  | none => .error (.missingFile name)
  | some s =>
    match Yaml.read (String.ofList (Text.unifyLineEnds s.toList)) with
    | .error f => .error (.ofFault name f)
    | .ok v => Settings.ofValue v

end Triage
