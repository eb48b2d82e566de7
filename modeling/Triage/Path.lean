import Triage.Text.Blank

/-!
# Paths

Paths in a repository, as findings, listings and diff headers spell them.
-/

namespace Triage.Path

/-- The name of no file, on the side of a diff where the file does not exist. -/
def devNull : String := "/dev/null"

/-- Drops every leading `./` and `/`. -/
def dropRoot : List Char → List Char
  | '.' :: '/' :: rest => dropRoot rest
  | '/' :: rest => dropRoot rest
  | cs => cs

/-- A path without surrounding blanks, relative to the root of the repository. -/
def relative (path : String) : String :=
  String.ofList (dropRoot (Text.trim path.toList))

/-- Drops one `a/` or `b/`, which diff headers put in front of a path. -/
def dropDiffSide : List Char → List Char
  | 'a' :: '/' :: rest => rest
  | 'b' :: '/' :: rest => rest
  | cs => cs

/-- The path that a name in a diff header means. -/
def ofDiffName (name : String) : String :=
  String.ofList (dropDiffSide (relative name).toList)

end Triage.Path
