import Triage.ChangedFile.Basic
import Triage.Diff.Index
import Triage.Feedback.Policy
import Triage.Json.Reader
import Triage.Limit
import Triage.PriorFinding
import Triage.Settings.Reading
import Triage.Summary.Basic
import Triage.Text.Blank

/-!
# Input files

The files that the commands read. A fault of a file is an `InputError` that names it. Some faults
are `Unforeseen`: no reader looks for them, and they end a command at once.
-/

namespace Triage.Command

/-! ### Faults -/

/-- Why a file cannot be read. -/
inductive FileFault
  | missing
  | directory
  /-- a part of the path before the last one is no directory -/
  | notDirectory
  /-- the name has a null character, which no name has -/
  | nullCharacter
  /-- another reason, such as a name that is too long -/
  | other
  deriving DecidableEq, Repr

/-- The text of a fault. -/
def FileFault.message : FileFault → String
  | missing => "the file does not exist"
  | directory => "the file is a directory"
  | notDirectory => "a part of the path is no directory"
  | nullCharacter => "embedded null byte"
  | other => "the file is out of reach"

/-- The bytes of files by name. -/
abbrev Files := String → Except FileFault (List UInt8)

/-- A fault that no reader looks for. -/
inductive Unforeseen
  | file (f : FileFault)
  | limit (e : LimitError)
  deriving DecidableEq, Repr

/-- The text of a fault. -/
def Unforeseen.message : Unforeseen → String
  | file f => f.message
  | limit e => e.message

/-- Whether a fault is a wrong value: a name that no file can have, or an integer with too many
digits. -/
def Unforeseen.isWrongValue : Unforeseen → Bool
  | file .nullCharacter => true
  | limit (.tooLongToRead _) => true
  | _ => false

/-- What a document has to be. -/
inductive Shape
  | listOrTable
  | commentList
  | findingList
  | list
  deriving DecidableEq, Repr

/-- What is said of a document of another shape. -/
def Shape.complaint : Shape → String
  | listOrTable => "root must be a list or an object"
  | commentList => "comments must be a list"
  | findingList => "expected a list of findings"
  | list => "root must be a list"

/-- A fault of an input file. -/
inductive InputError
  | unreadable (file : String)
  | notJson (file : String)
  | badShape (file : String) (wanted : Shape)
  | finding (file : String) (e : FindingError)
  | changedFile (file : String) (e : ChangedFileError)
  | policy (file : String) (e : PolicyError)
  /-- a file with a feedback policy has a wrong value -/
  | policyValue (file : String) (e : Unforeseen)
  | summary (file : String) (e : SummaryError)
  | patch (e : Diff.PatchError)
  | settings (e : SettingsError)
  | unforeseen (e : Unforeseen)
  deriving DecidableEq, Repr

/-- The text of a fault. -/
def InputError.message : InputError → String
  | unreadable file => "unable to read " ++ file
  | notJson file => "invalid JSON in " ++ file
  | badShape file wanted => file ++ ": " ++ wanted.complaint
  | finding file e => file ++ ": " ++ e.message
  | changedFile file e => file ++ ": " ++ e.message
  | policy file e => file ++ ": " ++ e.message
  | policyValue file e => file ++ ": " ++ e.message
  | summary file e => file ++ ": " ++ e.message
  | patch e => e.message
  | settings e => e.message
  | unforeseen e => e.message

/-- Whether a fault ends a command at once: it is unforeseen, a part of a summary or of a diff is
beyond a limit or cannot be walked through, or settings are no text, or do not mean what they
should. -/
def InputError.isUnexpected : InputError → Bool
  | unforeseen _ => true
  | summary _ .notWalkable => true
  | summary _ (.limit _) => true
  | patch (.limit _) => true
  | settings .undecodable => true
  | settings (.limit _) => true
  | settings (.badScalar _) => true
  | _ => false

/-- The result of reading a file. -/
abbrev Input (α : Type) := Except InputError α

/-! ### Names and texts -/

/-- The name of a file in its plain form: without empty parts and parts that are one point. -/
def plainName (name : String) : String :=
  let cs := name.toList
  let slashes := (cs.takeWhile (· = '/')).length
  let root := if slashes = 0 then "" else if slashes = 2 then "//" else "/"
  let parts := (Text.splitAt (· = '/') cs).filter fun part => part ≠ [] && part ≠ ['.']
  let body := "/".intercalate (parts.map String.ofList)
  if root = "" && body = "" then "." else root ++ body

/-- The text that bytes encode, with unified ends of lines. -/
def decode? (bytes : List UInt8) : Option String :=
  (String.fromUTF8? ⟨bytes.toArray⟩).map fun s => String.ofList (Text.unifyLineEnds s.toList)

/-- Reads a text. -/
def readText (files : Files) (file : String) : Input String :=
  match files file with
  | .ok bytes => ((decode? bytes).map .ok).getD (.error (.unreadable file))
  | .error .nullCharacter => .error (.unforeseen (.file .nullCharacter))
  | .error _ => .error (.unreadable file)

/-- The error of a file without a document. -/
def InputError.ofJson (file : String) : Json.ReadError → InputError
  | .malformed => notJson file
  | .limit e => unforeseen (.limit e)

/-- Reads a JSON document. -/
def readDocument [Nesting] (files : Files) (file : String) : Input Value := do
  let s ← readText files file
  (Json.read s).mapError (.ofJson file)

/-- Reads a list. -/
def readList [Nesting] (files : Files) (file : String) : Input (List Value) := do
  match ← readDocument files file with
  | .list items => return items
  | _ => throw (.badShape file .list)

/-! ### Inputs -/

/-- A result with its error placed in a file. -/
def placed (place : ε → InputError) (r : Except ε α) : Input α :=
  r.mapError place

/-- Reads settings; without a file they are the default ones. -/
def readSettings [Nesting] (files : Files) (file : Option String) : Input Settings :=
  match file with
  | none => .ok .default
  | some name =>
    match files name with
    | .error .missing => .error (.settings (.missingFile name))
    | .error f => .error (.unforeseen (.file f))
    | .ok bytes =>
      match String.fromUTF8? ⟨bytes.toArray⟩ with
      | none => .error (.settings .undecodable)
      | some s => placed .settings (Settings.ofFile name (some s))

/-- Reads a diff. -/
def readDiff (files : Files) (file : String) : Input DiffIndex := do
  let s ← readText files file
  placed .patch (DiffIndex.ofPatch s)

/-- Reads a review: a list of findings, or a table with comments and maybe a summary. -/
def readReview [Nesting] (files : Files) (file : String) :
    Input (List Value × Option RunSummary) := do
  match ← readDocument files file with
  | .list items => return (items, none)
  | .table entries =>
    let v := Value.table entries
    let comments ← match v.field? "comments" with
      | none => pure []
      | some (.list items) => pure items
      | some _ => throw (.badShape file .commentList)
    match v.get? "summary" with
    | none => return (comments, none)
    | some s => return (comments, some (← placed (.summary file) (RunSummary.ofValue s)))
  | .scalar _ => throw (.badShape file .listOrTable)

/-- Reads changed files; without a file there are none. -/
def readChangedFiles [Nesting] (files : Files) (file : Option String) : Input (List ChangedFile) :=
  match file with
  | none => .ok []
  | some name => do
    let items ← readList files name
    placed (.changedFile name) (items.mapM ChangedFile.ofValue)

/-- A fault of a file with a feedback policy. -/
def InputError.inPolicy (file : String) : InputError → InputError
  | unforeseen e => if e.isWrongValue then policyValue file e else unforeseen e
  | e => e

/-- Reads a feedback policy; without a file it is the neutral one. -/
def readPolicy [Nesting] (files : Files) (file : Option String) : Input FeedbackPolicy :=
  match file with
  | none => .ok .neutral
  | some name => do
    let v ← (readDocument files name).mapError (.inPolicy name)
    placed (.policy name) (FeedbackPolicy.ofValue v)

/-- Reads refined findings: a list, or the comments of a table. -/
def readFindings [Nesting] (files : Files) (file : String) : Input (List Finding) := do
  let items ← match ← readDocument files file with
    | .list items => pure items
    | .table entries =>
      match (Value.table entries).field? "comments" with
      | none => pure []
      | some (.list items) => pure items
      | some _ => throw (.badShape file .findingList)
    | .scalar _ => throw (.badShape file .findingList)
  placed (.finding file) (items.mapM Finding.ofValue)

/-- Reads prior findings. -/
def readPrior [Nesting] (files : Files) (file : String) : Input (List PriorFinding) := do
  let items ← readList files file
  placed (.finding file) (items.mapM PriorFinding.ofValue)

end Triage.Command
