import Triage.Finding.Reading

/-!
# Changed files

Records of the files that a change touches, with the counts of lines that it adds and deletes.
-/

namespace Triage

/-- A file of a change; what is not known is `none`. -/
structure ChangedFile where
  path : String
  additions : Option Int
  deletions : Option Int
  risk : Option Risk
  status : Option String
  deriving DecidableEq, Repr, Inhabited

/-- Why a document is no changed file. -/
inductive ChangedFileError
  | notTable
  | noPath
  deriving DecidableEq, Repr

/-- The text of an error. -/
def ChangedFileError.message : ChangedFileError → String
  | notTable => "changed file must be an object"
  | noPath => "changed file path must be a string"

/-- A count that a value is, if it is one. -/
def optionalCount (v : Option Value) : Option Int :=
  (v.bind Value.int?).filter (0 ≤ ·)

namespace ChangedFile

/-- The lines added and deleted. -/
def churn (f : ChangedFile) : Int :=
  f.additions.getD 0 + f.deletions.getD 0

/-- Reads a changed file. -/
def ofValue (v : Value) : Except ChangedFileError ChangedFile := do
  unless v.isTable do throw .notTable
  match (v.getFirst? ["path", "filename"]).bind Value.text? with
  | none => throw .noPath
  | some path =>
    return {
      path
      additions := optionalCount (v.get? "additions")
      deletions := optionalCount (v.get? "deletions")
      risk := optionalWord Risk (v.get? "risk")
      status := (v.get? "status").bind Value.text? }

end ChangedFile

end Triage
