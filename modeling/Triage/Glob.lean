/-!
# Globs

Patterns for paths. A star matches any run of characters, slashes among them, a question mark one
character, and a bracket one character of a set, whose ranges may be empty; every other character
matches itself, and so does a bracket that is never closed.
-/

namespace Triage.Glob

/-- A part of a pattern: any run of characters, or one character of a class. -/
inductive Part
  | run
  | one (accepts : Char → Bool)

/-! ### Sets in brackets -/

/-- A character of a set as it is written, or the hyphen between the two ends of a range. -/
inductive Mark
  | char (c : Char)
  | through
  deriving DecidableEq, Repr

/-- A character in front of the first of several pieces. -/
def consFirst (c : Char) : List (List Char) → List (List Char)
  | [] => [[c]]
  | piece :: rest => (c :: piece) :: rest

/-- Cuts a set at the hyphens that make ranges. A hyphen makes one only after the first `skip`
characters of its piece; the next piece starts with the end of the range, so there the first two
characters are passed over. -/
def pieces (skip : Nat) : List Char → List (List Char)
  | [] => [[]]
  | c :: rest =>
    if c = '-' ∧ skip = 0 then [] :: pieces 2 rest else consFirst c (pieces (skip - 1) rest)

/-- Pieces in which a hyphen at the end of the set is one of its characters. -/
def closePieces : List (List Char) → List (List Char)
  | [piece, []] => [piece ++ ['-']]
  | piece :: rest => piece :: closePieces rest
  | [] => []

/-- A piece in front of others; a range that would run downward goes, with both of its ends. -/
def joinPiece (piece : List Char) (later : List (List Char)) : List (List Char) :=
  match piece.getLast?, later with
  | some low, (high :: more) :: rest =>
    if high < low then (piece.dropLast ++ more) :: rest else piece :: later
  | _, _ => piece :: later

/-- The marks of a set. -/
def marks (cs : List Char) : List Mark :=
  let skip := if cs.head? = some '!' then 2 else 1
  let kept := (closePieces (pieces skip cs)).foldr joinPiece []
  [Mark.through].intercalate (kept.map fun piece => piece.map Mark.char)

/-- Whether marks hold a character, by itself or inside a range. -/
def holds (c : Char) : List Mark → Bool
  | .char low :: .through :: .char high :: rest => (low ≤ c && c ≤ high) || holds c rest
  | .char d :: rest => c = d || holds c rest
  | .through :: rest => c = '-' || holds c rest
  | [] => false

/-- The characters that the set between two brackets accepts. An exclamation mark in front turns it
round. -/
def setAccepts (cs : List Char) : Char → Bool :=
  match marks cs with
  | .char '!' :: rest => fun c => !holds c rest
  | ms => fun c => holds c ms

/-- Splits what follows an opening bracket at the closing one. A bracket in front, after an
exclamation mark or not, is a character of the set. -/
def splitSet? (cs : List Char) : Option (List Char × List Char) :=
  let lead := if cs.head? = some '!' then 1 else 0
  let lead := if (cs.drop lead).head? = some ']' then lead + 1 else lead
  let body := (cs.drop lead).takeWhile (· ≠ ']')
  match (cs.drop lead).dropWhile (· ≠ ']') with
  | [] => none
  | _ :: rest => some (cs.take lead ++ body, rest)

/-! ### Patterns -/

/-- The parts of a pattern; every part takes at least one character of it, so its length is fuel
enough. -/
def partsWithin : Nat → List Char → List Part
  | 0, _ => []
  | _, [] => []
  | fuel + 1, c :: cs =>
    match c with
    | '*' => .run :: partsWithin fuel cs
    | '?' => .one (fun _ => true) :: partsWithin fuel cs
    | '[' =>
      match splitSet? cs with
      | some (set, rest) => .one (setAccepts set) :: partsWithin fuel rest
      | none => .one (· = '[') :: partsWithin fuel cs
    | c => .one (· = c) :: partsWithin fuel cs

/-- The parts of a pattern. -/
def parts (pattern : List Char) : List Part :=
  partsWithin pattern.length pattern

/-- For each end of a text, from the whole text to the empty one: whether a part and what follows it
match it, given where what follows matches. -/
def matchesBefore (text : List Char) (p : Part) (after : List Bool) : List Bool :=
  match p with
  | .run => after.foldr (fun ok later => (ok || later.headD false) :: later) []
  | .one accepts => List.zipWith (fun c ok => accepts c && ok) text after.tail ++ [false]

/-- Whether a pattern matches a whole text. -/
def accepts (pattern path : String) : Bool :=
  let text := path.toList
  let atEnd := List.replicate text.length false ++ [true]
  ((parts pattern.toList).foldr (matchesBefore text) atEnd).headD false

/-- Whether one of several patterns matches a path. -/
def anyAccepts (patterns : List String) (path : String) : Bool :=
  patterns.any fun pattern => accepts pattern path

end Triage.Glob
