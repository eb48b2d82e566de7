/-!
# Cursors

A place in a YAML text: what is left of the text, with the line and column of its first character.
Behind the end of the text stand zero characters, which no text holds.
-/

namespace Triage.Yaml

/-- A place in a text. -/
structure Cursor where
  rest : List Char
  index : Nat
  line : Nat
  column : Nat
  deriving Repr

/-- The character that stands behind the end of a text. -/
def endMark : Char := '\x00'

/-- Whether a character ends a line. -/
def isBreak (c : Char) : Bool :=
  c = '\n' || c = '\r' || c = '\x85' || c = '\u2028' || c = '\u2029'

/-- Whether a character ends a line, or the text does. -/
def isBreakOrEnd (c : Char) : Bool :=
  isBreak c || c = endMark

/-- Whether a character ends a word. -/
def isGap (c : Char) : Bool :=
  isBreakOrEnd c || c = ' ' || c = '\t'

/-- Whether a character is a space or a tab. -/
def isSpaceOrTab (c : Char) : Bool :=
  c = ' ' || c = '\t'

namespace Cursor

/-- The start of a text. -/
def ofText (cs : List Char) : Cursor := ⟨cs, 0, 0, 0⟩

/-- The character at some distance. -/
def peek (c : Cursor) (distance : Nat) : Char :=
  c.rest.getD distance endMark

/-- The character here. -/
def here (c : Cursor) : Char := c.peek 0

/-- The place after the character here. -/
def next (c : Cursor) : Cursor :=
  match c.rest with
  | [] => c
  | d :: rest =>
    if (isBreak d && d ≠ '\r') || (d = '\r' && rest.head? ≠ some '\n') then
      ⟨rest, c.index + 1, c.line + 1, 0⟩
    else ⟨rest, c.index + 1, c.line, if d = '\uFEFF' then c.column else c.column + 1⟩

/-- The place after some characters. -/
def skip (c : Cursor) : Nat → Cursor
  | 0 => c
  | n + 1 => c.next.skip n

/-- The characters of a class from here on. -/
def run (c : Cursor) (p : Char → Bool) : List Char :=
  c.rest.takeWhile p

/-- The place after the characters of a class. -/
def skipRun (c : Cursor) (p : Char → Bool) : Cursor :=
  c.skip (c.run p).length

/-- The end of a line, as one character, and the place after it. -/
def lineBreak? (c : Cursor) : Option (Char × Cursor) :=
  let d := c.here
  if d = '\r' && c.peek 1 = '\n' then some ('\n', c.skip 2)
  else if d = '\r' || d = '\n' || d = '\x85' then some ('\n', c.next)
  else if d = '\u2028' || d = '\u2029' then some (d, c.next)
  else none

/-- The place after the end of a line, if there is one here. -/
def skipBreak (c : Cursor) : Cursor :=
  (c.lineBreak?.map Prod.snd).getD c

/-- Whether a word of three characters that stands alone is here. -/
def atMark (c : Cursor) (mark : String) : Bool :=
  mark.toList.isPrefixOf c.rest && isGap (c.peek 3)

/-- Whether a line that starts a document or ends one is here. -/
def atDocumentMark (c : Cursor) : Bool :=
  c.atMark "---" || c.atMark "..."

/-- The place after a comment, if there is one here. -/
def skipComment (c : Cursor) : Cursor :=
  if c.here = '#' then c.skipRun (!isBreakOrEnd ·) else c

/-- The place after the spaces and the comment of a line, and after its end if it has no more. -/
def skipLineEnd? (c : Cursor) : Option Cursor :=
  let d := (c.skipRun (· = ' ')).skipComment
  if isBreakOrEnd d.here then some d.skipBreak else none

end Cursor

end Triage.Yaml
