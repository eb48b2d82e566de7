import Triage.ChangedFile.Basic
import Triage.OrderedMap
import Triage.Text.Blank
import Triage.Text.Numeral

/-!
# Listings

Changed files from the two listings of a version control system: the status of each file, and the
counts of its lines. Both are lines of fields between tabs with the path last.
-/

namespace Triage.Listing

/-- The statuses by the letter that a status code starts with. -/
def statusNames : List (Char × String) :=
  [('A', "added"), ('M', "modified"), ('D', "removed"), ('R', "renamed"), ('C', "copied"),
    ('T', "changed"), ('U', "modified")]

/-- The status that a code means; a code with another letter means itself in upper case, and no
code means a modified file. -/
def statusOfCode (code : String) : String :=
  match Text.upper (Text.trim code.toList) with
  | [] => "modified"
  | c :: rest => (statusNames.lookup c).getD (String.ofList (c :: rest))

/-- The count of lines in a field; a binary file has none. -/
def count? (field : String) : Option Int :=
  (Text.readInteger 10 field.toList).toOption

/-- The fields of a line. -/
def fields (line : List Char) : List String :=
  (Text.splitAt (· == '\t') (Text.trim line)).map String.ofList

/-- The fields of all lines with the fields they need, each with its path. -/
def rows (least : Nat) (text : String) : List (String × List String) :=
  (Text.lines text.toList).filterMap fun line =>
    let fs := fields line
    let path := Text.trimmed (fs.getLast?.getD "")
    if least ≤ fs.length && path ≠ "" then some (path, fs) else none

/-- The changed files so far. -/
abbrev Files := OrderedMap String ChangedFile

/-- Adds a row of the listing of statuses. -/
def addStatus (files : Files) (row : String × List String) : Files :=
  let status := statusOfCode (row.2.headD "")
  files.insert row.1 ⟨row.1, none, none, none, some status⟩

/-- Adds a row of the listing of counts. -/
def addCounts (files : Files) (row : String × List String) : Files :=
  let status := (files.get? row.1).bind ChangedFile.status
  files.insert row.1 ⟨row.1, count? (row.2.getD 0 ""), count? (row.2.getD 1 ""), none, status⟩

/-- The changed files of two listings, in the order in which their paths come first. -/
def changedFiles (statuses counts : String) : List ChangedFile :=
  let listed := (rows 2 statuses).foldl addStatus .empty
  ((rows 3 counts).foldl addCounts listed).values

end Triage.Listing
