import Triage.Limit
import Triage.Positional
import Triage.Text.Blank
import Triage.Text.Unicode

/-!
# Header lines

The lines of a patch outside hunks, recognised one by one. `Header.ofLine` tries the forms in order;
a line of no form is `other`. Lines keep their line feeds.
-/

namespace Triage.Diff

/-- A number by the digits that it is written with. -/
structure Numeral where
  digits : List Nat
  deriving DecidableEq, Repr

/-- The value of a number. -/
def Numeral.value (n : Numeral) : Nat :=
  ofDigits 10 n.digits

/-- The number of a count that is not written, which is one. -/
def Numeral.one : Numeral := ⟨[1]⟩

/-- The numbers in the header of a hunk: first line and count of lines on each side. -/
structure HunkRange where
  leftStart : Numeral
  leftLength : Numeral
  rightStart : Numeral
  rightLength : Numeral
  deriving DecidableEq, Repr

/-- The count of digits of the first number that has too many of them. -/
def HunkRange.tooLong? (r : HunkRange) : Option Nat :=
  ([r.leftStart, r.leftLength, r.rightStart, r.rightLength].map fun n => n.digits.length).find?
    (maxIntegerDigits < ·)

/-- What a line outside hunks says. -/
inductive Header
  /-- a new file with its names before and after the change -/
  | file (source target : String)
  /-- the file is created -/
  | created
  /-- the file is deleted -/
  | deleted
  /-- modes and checksums of the file -/
  | attributes
  /-- the name before the change -/
  | source (name : String)
  /-- the name after the change -/
  | target (name : String)
  | hunk (range : HunkRange)
  /-- the line above has no line feed -/
  | noLineFeed
  | empty
  /-- the files are not text -/
  | binary (source : String) (target : Option String)
  /-- the changes that follow are not text -/
  | binaryPatch
  | other
  deriving DecidableEq, Repr

/-! ### Parts of lines -/

/-- What follows a word at the start of a line. -/
def after? (word : String) (line : List Char) : Option (List Char) :=
  if word.toList.isPrefixOf line then some (line.drop word.length) else none

/-- Whether a character can stand in a name. -/
def isNameChar (c : Char) : Bool :=
  c ≠ '\t' && c ≠ '\n'

/-- Decimal digits at the start of a line, and what follows them; `none` without any. -/
def number? (cs : List Char) : Option (Numeral × List Char) :=
  let digits := cs.takeWhile Text.isDecimalDigit
  if digits.isEmpty then none
  else some (⟨digits.filterMap Text.digitValue?⟩, cs.dropWhile Text.isDecimalDigit)

/-- Whether nothing is left of a line but its line feed. -/
def atEnd (cs : List Char) : Bool :=
  cs = [] || cs = ['\n']

/-- Whether a line is a word, a number, and its end. -/
def isNumbered (word : String) (line : List Char) : Bool :=
  match (after? word line).bind number? with
  | some (_, rest) => atEnd rest
  | none => false

/-- The two sides of every space of a text, the last space first. -/
def spaceSplits : List Char → List (List Char × List Char)
  | [] => []
  | c :: rest =>
    let later := (spaceSplits rest).map fun (left, right) => (c :: left, right)
    if c = ' ' then later ++ [([], rest)] else later

/-- Whether a text is a directory, possibly after a quote, and at least one more character. -/
def isUnder (directory : String) (cs : List Char) : Bool :=
  let body := match cs with
    | '"' :: rest => rest
    | _ => cs
  match after? directory body with
  | some (_ :: _) => true
  | _ => false

/-- The names of a file under `a/` and `b/`, split at the last space that allows it. -/
def sidedNames? (run : List Char) : Option (List Char × List Char) :=
  (spaceSplits run).find? fun (left, right) => isUnder "a/" left && isUnder "b/" right

/-- The mark between the scheme of an address and the rest of it. -/
def schemeMark : List Char := "://".toList

/-- The places of scheme marks in a text with what follows each, the last mark first. -/
def schemeSplits : Nat → List Char → List (Nat × List Char)
  | _, [] => []
  | i, c :: rest =>
    let later := schemeSplits (i + 1) rest
    if schemeMark.isPrefixOf (c :: rest) then later ++ [(i, rest.drop 2)] else later

/-- The place of the last scheme mark of an address that has no tab after it. -/
def addressPlace? (cs : List Char) : Option Nat :=
  ((schemeSplits 0 cs).find? fun (_, rest) => !rest.isEmpty && !rest.contains '\t').map Prod.fst

/-- An address at the start of a text: through the last scheme mark that something follows, up to
a tab. -/
def address? (cs : List Char) : Option (List Char) :=
  ((schemeSplits 0 cs).find? fun (_, rest) => rest.head?.any (· ≠ '\t')).map fun (i, rest) =>
    cs.take (i + 3) ++ rest.takeWhile (· ≠ '\t')

/-- The names of a file that are addresses: the last scheme mark of the first one is as late as it
can be, and then the space after it. -/
def addressNames? (line : List Char) : Option (List Char × List Char) :=
  let candidates := (spaceSplits line).filterMap fun (left, right) => do
    let place ← addressPlace? left
    let target ← address? right
    return (place, left, target)
  let latest := candidates.foldl (fun n c => max n c.1) 0
  (candidates.find? fun c => c.1 = latest).map Prod.snd

/-- The names of a file without a form of their own, split at the last space inside. -/
def plainNames? (run : List Char) : Option (List Char × List Char) :=
  (spaceSplits run).find? fun (left, right) => !left.isEmpty && !right.isEmpty

/-- The names in the line that starts the section of a file. -/
def fileNames? (line : List Char) : Option (List Char × List Char) := do
  let body ← after? "diff --git " line
  let run := body.takeWhile isNameChar
  (sidedNames? run).or ((addressNames? (body.takeWhile (· ≠ '\n'))).or (plainNames? run))

/-- Whether a line gives the checksums and the mode of a file. -/
def isChecksums (line : List Char) : Bool :=
  let isHex (c : Char) : Bool := ('0' ≤ c && c ≤ '9') || ('a' ≤ c && c ≤ 'f')
  match after? "index " line with
  | none => false
  | some body =>
    match after? ".." (body.dropWhile isHex) with
    | none => false
    | some second =>
      (body.head?.any isHex) && (second.head?.any isHex) && isNumbered " " (second.dropWhile isHex)

/-- A first line and a count of lines, which is one if it is not given. -/
def span? (cs : List Char) : Option (Numeral × Numeral × List Char) := do
  let (start, rest) ← number? cs
  match rest with
  | ',' :: more =>
    match number? more with
    | some (length, rest) => return (start, length, rest)
    | none => return (start, .one, rest)
  | _ => return (start, .one, rest)

/-- The numbers in the header of a hunk. -/
def hunkRange? (line : List Char) : Option HunkRange := do
  let left ← after? "@@ -" line
  let (leftStart, leftLength, rest) ← span? left
  let right ← after? " +" rest
  let (rightStart, rightLength, rest) ← span? right
  let _ ← after? " @@" rest
  return ⟨leftStart, leftLength, rightStart, rightLength⟩

/-! ### Files that are not text -/

/-- The prefixes of a text that are names, shortest first, each with what follows it. -/
def namesOf (cs : List Char) : List (List Char × List Char) :=
  let run := cs.takeWhile (· ≠ '\t')
  (List.range run.length).map fun i => (cs.take (i + 1), cs.drop (i + 1))

/-- Whether a character can stand in a time. -/
def isTimeChar (c : Char) : Bool :=
  Text.isBlank c || ('0' ≤ c && c ≤ '9') || c = ':' || c = '+' || c = '-'

/-- What can follow a name after a tab and a time, the longest time first, or without them. -/
def afterTime (cs : List Char) : List (List Char) :=
  match cs with
  | '\t' :: rest =>
    let n := (rest.takeWhile isTimeChar).length
    ((List.range n).map fun i => rest.drop (n - i)) ++ [cs]
  | _ => [cs]

/-- Whether the rest of a line says that the files are not the same. -/
def saysDifferent (cs : List Char) : Bool :=
  (after? " differ" cs).isSome || (after? " has changed" cs).isSome

/-- The second name of a line about files that are not text, if the rest of the line has one. -/
def secondName? (cs : List Char) : Option (List Char) :=
  (after? " and " cs).bind fun body =>
    (namesOf body).findSome? fun (name, rest) =>
      if (afterTime rest).any saysDifferent then some name else none

/-- The names in a line about files that are not text. -/
def binaryNames? (line : List Char) : Option (List Char × Option (List Char)) := do
  let body ← (after? "Binary files " line).or (after? "Binary file " line)
  (namesOf body).findSome? fun (name, rest) =>
    (afterTime rest).findSome? fun rest =>
      match secondName? rest with
      | some second => some (name, some second)
      | none => if saysDifferent rest then some (name, none) else none

/-! ### Lines -/

/-- What a line outside hunks says. -/
def Header.ofLine (line : List Char) : Header :=
  match fileNames? line with
  | some (before, after) => .file (String.ofList before) (String.ofList after)
  | none =>
    if isNumbered "new file mode " line then .created
    else if isNumbered "deleted file mode " line then .deleted
    else if isNumbered "old mode " line || isNumbered "new mode " line || isChecksums line then
      .attributes
    else match after? "--- " line with
      | some name => .source (String.ofList (name.takeWhile isNameChar))
      | none =>
        match after? "+++ " line with
        | some name => .target (String.ofList (name.takeWhile isNameChar))
        | none =>
          match hunkRange? line with
          | some range => .hunk range
          | none =>
            if (after? "\\ No newline at end of file" line).isSome then .noLineFeed
            else if line = ['\n'] then .empty
            else if line = "GIT binary patch\n".toList then .binaryPatch
            else match binaryNames? line with
              | some (first, second) =>
                .binary (String.ofList first) (second.map String.ofList)
              | none => .other

end Triage.Diff
