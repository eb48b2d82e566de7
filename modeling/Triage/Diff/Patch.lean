import Triage.Diff.Header
import Triage.Diff.Hunk
import Triage.Path
import Triage.Text.Blank

/-!
# Patches

A patch as a list of sections, one for each file. Reading goes line by line: the state of the reader
is the sections so far, the one under way, and the hunk under way, whose header tells how many lines
it still has on each side.
-/

namespace Triage.Diff

/-- The part of a patch about one file. -/
structure FileSection where
  source : String
  target : String
  hunks : List Hunk
  deriving DecidableEq, Repr, Inhabited

/-- Why a text is no patch. Lines are given with their line feeds. -/
inductive PatchError
  | unexpectedCreation (line : String)
  | unexpectedDeletion (line : String)
  | targetWithoutSource (line : String)
  | unexpectedHunk (line : String)
  | unexpectedMark (line : String)
  /-- the section has no hunk whose last line could lack its line feed -/
  | markWithoutHunk
  | unexpectedBinary (line : String)
  | notHunkLine (line : String)
  | hunkTooLong
  | hunkTooShort
  /-- a number in the header of a hunk is beyond a limit -/
  | limit (e : LimitError)
  deriving DecidableEq, Repr

/-- What is said of a text that is no patch. -/
def unparsable (reason : String) : String :=
  "unable to parse diff: " ++ reason

/-- The text of an error. -/
def PatchError.message : PatchError → String
  | unexpectedCreation line => unparsable ("Unexpected new file found: " ++ line)
  | unexpectedDeletion line => unparsable ("Unexpected deleted file found: " ++ line)
  | targetWithoutSource line => unparsable ("Target without source: " ++ line)
  | unexpectedHunk line => unparsable ("Unexpected hunk found: " ++ line)
  | unexpectedMark line => unparsable ("Unexpected marker: " ++ line)
  | markWithoutHunk => unparsable "Unexpected marker: No newline at end of file"
  | unexpectedBinary line => unparsable ("Unexpected binary patch marker: " ++ line)
  | notHunkLine line => unparsable ("Hunk diff line expected: " ++ line)
  | hunkTooLong => unparsable "Hunk is longer than expected"
  | hunkTooShort => unparsable "Hunk is shorter than expected"
  | limit e => e.message

/-! ### Lines of hunks -/

/-- A line of a hunk: an entry, or the mark that the line above has no line feed. -/
inductive BodyLine
  | entry (e : Entry)
  | noLineFeed
  deriving DecidableEq, Repr

/-- The content of a line without its line feeds. -/
def contentOf (cs : List Char) : String :=
  String.ofList (Text.dropTrailing (· == '\n') cs)

/-- What a line of a hunk is. A line that holds nothing but its ending is an unchanged one. -/
def BodyLine.ofLine? (line : List Char) : Option BodyLine :=
  match line with
  | '+' :: content => some (.entry ⟨.add, contentOf content⟩)
  | '-' :: content => some (.entry ⟨.del, contentOf content⟩)
  | ' ' :: content => some (.entry ⟨.normal, contentOf content⟩)
  | '\\' :: _ => some .noLineFeed
  | c :: _ =>
    if c = '\n' ∨ c = '\r' then
      some (.entry ⟨.normal, contentOf ((line.take 2).takeWhile fun d => d = '\n' || d = '\r')⟩)
    else none
  | [] => none

/-- A hunk under way: its entries so far, the last one first, and how many lines of it are still to
come on each side. -/
structure OpenHunk where
  range : HunkRange
  entries : List Entry
  leftMissing : Int
  rightMissing : Int

namespace OpenHunk

/-- A hunk of which only the header was read. -/
def ofRange (range : HunkRange) : OpenHunk :=
  ⟨range, [], range.leftLength.value, range.rightLength.value⟩

/-- The hunk with one more line. -/
def add (h : OpenHunk) : BodyLine → OpenHunk
  | .noLineFeed => h
  | .entry e =>
    { h with
      entries := e :: h.entries
      leftMissing := if e.kind.isOn .left then h.leftMissing - 1 else h.leftMissing
      rightMissing := if e.kind.isOn .right then h.rightMissing - 1 else h.rightMissing }

/-- The hunk as it is. -/
def toHunk (h : OpenHunk) : Hunk :=
  ⟨h.range.leftStart.value, h.range.rightStart.value, h.entries.reverse⟩

end OpenHunk

/-! ### The reader -/

/-- The state of the reader. -/
structure Reader where
  /-- the finished sections, the last one first -/
  finished : List FileSection
  /-- the section under way, its hunks in reverse -/
  current : Option FileSection
  /-- whether the section is still in its header -/
  inHeader : Bool
  /-- the last name of a file before its change -/
  pending : Option String
  openHunk : Option OpenHunk

namespace Reader

/-- The reader in front of a patch. -/
def initial : Reader := ⟨[], none, false, none, none⟩

/-- Ends the section under way. -/
def close (r : Reader) : Reader :=
  { r with finished := r.current.toList ++ r.finished, current := none }

/-- Begins a section. -/
def begin (r : Reader) (source target : String) : Reader :=
  { r.close with current := some ⟨source, target, []⟩ }

/-- Adds a hunk to the section under way. -/
def addHunk (r : Reader) (h : Hunk) : Reader :=
  { r with current := r.current.map fun s => { s with hunks := h :: s.hunks } }

/-- Ends the section under way unless it is in its header. -/
def closeBody (r : Reader) : Reader :=
  if r.inHeader then r else r.close

/-- In a header: that of the section under way, or one that ends it. -/
def enterHeader (r : Reader) : Reader :=
  { r.closeBody with inHeader := true }

/-- Reads a line that names the file after its change. -/
def readTarget (r : Reader) (line name : String) : Except PatchError Reader :=
  match r.current, r.pending with
  | some s, _ => if s.target = name then .ok r else .error (.targetWithoutSource line)
  | none, none => .error (.targetWithoutSource line)
  | none, some source => .ok { r.begin source name with inHeader := false, pending := none }

/-- Reads a line about files that are not text. -/
def readBinary (r : Reader) (source : String) (target : Option String) : Reader :=
  let named := if r.current.isNone then r.begin source (target.getD source) else r
  { named.close with inHeader := false, pending := some source }

/-- Reads a line outside hunks. -/
def readHeader (r : Reader) (line : String) : Header → Except PatchError Reader
  | .file source target =>
    .ok { r.begin source target with inHeader := true, pending := some source }
  | .created =>
    match r.current, r.inHeader with
    | some s, true => .ok { r with current := some { s with source := Path.devNull } }
    | _, _ => .error (.unexpectedCreation line)
  | .deleted =>
    match r.current, r.inHeader with
    | some s, true => .ok { r with current := some { s with target := Path.devNull } }
    | _, _ => .error (.unexpectedDeletion line)
  | .attributes => .ok (if r.current.isSome && r.inHeader then r else r.enterHeader)
  | .source name => .ok { r.closeBody with pending := some name }
  | .target name => r.readTarget line name
  | .hunk range =>
    match r.current, range.tooLong? with
    | none, _ => .error (.unexpectedHunk line)
    | some _, some digits => .error (.limit (.tooLongToRead digits))
    | some _, none => .ok { r with inHeader := false, openHunk := some (.ofRange range) }
  | .noLineFeed =>
    match r.current with
    | none => .error (.unexpectedMark line)
    | some s => if s.hunks.isEmpty then .error .markWithoutHunk else .ok r
  | .empty =>
    .ok (if r.current.any (!·.hunks.isEmpty) then r else r.enterHeader)
  | .binary source target => .ok (r.enterHeader.readBinary source target)
  | .binaryPatch =>
    let inner := r.closeBody
    if inner.current.isNone then .error (.unexpectedBinary line)
    else .ok { inner.close with inHeader := false }
  | .other => .ok r.enterHeader

/-- Reads a line of the hunk under way, which ends when no line is missing on either side. -/
def readBody (r : Reader) (h : OpenHunk) (line : List Char) : Except PatchError Reader :=
  match BodyLine.ofLine? line with
  | none => .error (.notHunkLine (String.ofList line))
  | some body =>
    let h := h.add body
    if h.leftMissing < 0 ∨ h.rightMissing < 0 then .error .hunkTooLong
    else if h.leftMissing = 0 ∧ h.rightMissing = 0 then
      .ok { r.addHunk h.toHunk with openHunk := none }
    else .ok { r with openHunk := some h }

/-- Reads a line. -/
def readLine (r : Reader) (line : List Char) : Except PatchError Reader :=
  match r.openHunk with
  | some h => r.readBody h line
  | none => r.readHeader (String.ofList line) (Header.ofLine line)

/-- The sections of a patch that ends here. -/
def finish (r : Reader) : Except PatchError (List FileSection) :=
  let sections (r : Reader) : List FileSection :=
    (r.close.finished.map fun s => { s with hunks := s.hunks.reverse }).reverse
  match r.openHunk with
  | none => .ok (sections r)
  | some h =>
    if 0 < h.leftMissing ∨ 0 < h.rightMissing then .error .hunkTooShort
    else .ok (sections (r.addHunk h.toHunk))

end Reader

/-- Reads a patch. -/
def readPatch (text : String) : Except PatchError (List FileSection) := do
  let r ← (Text.feedLines text.toList).foldlM Reader.readLine .initial
  r.finish

/-- The path that a section is about: that of its target, or of its source if it has no target. -/
def FileSection.path (s : FileSection) : String :=
  Path.ofDiffName (if s.target = "" ∨ s.target = Path.devNull then s.source else s.target)

end Triage.Diff
