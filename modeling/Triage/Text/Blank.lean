/-!
# Blanks and lines

The characters that separate words, and the text operations that treat a run of them as one:
trimming, splitting into words, and squeezing runs of any class into single spaces. Then where a
text is cut into lines, for which three customs are in use: a listing is cut at every line boundary
of Unicode (`lines`), a patch only after a line feed, which stays (`feedLines`), and a file is read
with each of its three line endings as a line feed (`unifyLineEnds`).
-/

namespace Triage.Text

/-! ### Blanks -/

/-- White space and the line and paragraph separators of Unicode, with the four information
separators of ASCII. -/
def isBlank (c : Char) : Bool :=
  let n := c.toNat
  (0x09 ≤ n && n ≤ 0x0D) || (0x1C ≤ n && n ≤ 0x20) || n == 0x85 || n == 0xA0 || n == 0x1680 ||
    (0x2000 ≤ n && n ≤ 0x200A) || n == 0x2028 || n == 0x2029 || n == 0x202F || n == 0x205F ||
    n == 0x3000

/-- Drops the characters of a class from the end of a text. -/
def dropTrailing (p : Char → Bool) (cs : List Char) : List Char :=
  (cs.reverse.dropWhile p).reverse

/-- Drops the blanks at both ends. -/
def trim (cs : List Char) : List Char :=
  dropTrailing isBlank (cs.dropWhile isBlank)

/-- Drops the blanks at both ends of a string. -/
def trimmed (s : String) : String :=
  String.ofList (trim s.toList)

/-- The pieces between the separators of a class: one more piece than there are separators. -/
def splitAt (p : Char → Bool) (cs : List Char) : List (List Char) :=
  cs.foldr (fun c pieces =>
    if p c then [] :: pieces
    else match pieces with
      | [] => [[c]]
      | w :: ws => (c :: w) :: ws) [[]]

/-- The maximal runs of characters that are not blank. -/
def words (cs : List Char) : List (List Char) :=
  (splitAt isBlank cs).filter (· ≠ [])

/-- One character of a class in front of a squeezed text: it becomes a space, unless the text
starts with the space of the same run. -/
def squeezeCons (p : Char → Bool) (c : Char) (rest : List Char) : List Char :=
  if p c then
    match rest with
    | ' ' :: _ => rest
    | _ => ' ' :: rest
  else c :: rest

/-- Replaces every maximal run of a class that holds the space by one space. -/
def squeeze (p : Char → Bool) (cs : List Char) : List Char :=
  cs.foldr (squeezeCons p) []

/-! ### Lines -/

/-- The line boundaries of Unicode, with the file, group and record separators of ASCII. -/
def isLineBoundary (c : Char) : Bool :=
  let n := c.toNat
  (0x0A ≤ n && n ≤ 0x0D) || (0x1C ≤ n && n ≤ 0x1E) || n == 0x85 || n == 0x2028 || n == 0x2029

/-- The lines of a text without their boundaries; a carriage return with its line feed is one
boundary, and nothing after the last boundary is no line. `line` holds the characters of the line
under way, last one first. -/
def linesFrom (line : List Char) : List Char → List (List Char)
  | [] => if line.isEmpty then [] else [line.reverse]
  | '\r' :: '\n' :: rest => line.reverse :: linesFrom [] rest
  | c :: rest =>
    if isLineBoundary c then line.reverse :: linesFrom [] rest else linesFrom (c :: line) rest

/-- The lines of a text, cut at every line boundary. -/
def lines (cs : List Char) : List (List Char) :=
  linesFrom [] cs

/-- The lines of a text with their line feeds; only the last one may lack it. -/
def feedLines (cs : List Char) : List (List Char) :=
  cs.foldr (fun c pieces =>
    if c = '\n' then [c] :: pieces
    else match pieces with
      | [] => [[c]]
      | line :: rest => (c :: line) :: rest) []

/-- Writes every line ending, a carriage return with or without a line feed, as a line feed. -/
def unifyLineEnds : List Char → List Char
  | [] => []
  | '\r' :: '\n' :: rest => '\n' :: unifyLineEnds rest
  | '\r' :: rest => '\n' :: unifyLineEnds rest
  | c :: rest => c :: unifyLineEnds rest

end Triage.Text
