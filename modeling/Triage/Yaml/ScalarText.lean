import Triage.Json.Reader
import Triage.Text.Quoted
import Triage.Yaml.Cursor
import Triage.Yaml.Fault

/-!
# Scalars in a YAML text

How the three kinds of scalar are read, each over as many lines as it has: quoted ones, plain ones,
and blocks of lines under an indicator.
-/

namespace Triage.Yaml

/-- A text that was read and the place after it. -/
abbrev Scanned := List Char × Cursor

/-! ### Quoted scalars -/

/-- The characters that a backslash and a letter write. -/
def escapeNames : List (Char × Char) :=
  [('0', '\x00'), ('a', '\x07'), ('b', '\x08'), ('t', '\t'), ('\t', '\t'), ('n', '\n'),
    ('v', '\x0b'), ('f', '\x0c'), ('r', '\r'), ('e', '\x1b'), (' ', ' '), ('"', '"'),
    ('\\', '\\'), ('/', '/'), ('N', '\x85'), ('_', '\xa0'), ('L', '\u2028'), ('P', '\u2029')]

/-- The count of hexadecimal digits after a backslash and a letter. -/
def escapeWidths : List (Char × Nat) := [('x', 2), ('u', 4), ('U', 8)]

/-- The breaks of empty lines inside a quoted scalar, and the place after them and the spaces of the
line that follows. No document may start or end there. -/
def quotedBreaks : Nat → Cursor → Except Fault Scanned
  | 0, _ => .error .malformed
  | fuel + 1, c =>
    if c.atDocumentMark then .error .malformed
    else
      let d := c.skipRun isSpaceOrTab
      match d.lineBreak? with
      | some (b, after) => (quotedBreaks fuel after).map fun (bs, e) => (b :: bs, e)
      | none => .ok ([], d)

/-- The text that a line break and the empty lines after it stand for. -/
def foldBreaks (first : Char) (breaks : List Char) : List Char :=
  if first ≠ '\n' then first :: breaks
  else if breaks.isEmpty then [' ']
  else breaks

/-- The least number of an escape that is too large for a code of any kind. -/
def hugeCode : Nat := Nat.pow 2 31

/-- The character with a number. Half of a surrogate pair is one too. -/
def characterOf (code : Nat) : Except Fault Char :=
  if hugeCode ≤ code then .error (.limit .beyondCodes)
  else if 0x110000 ≤ code then .error .noCharacter
  else .ok (Text.ofUnit code)

/-- The character that an escape of digits writes after its letter. -/
def escapedCode (c : Cursor) (width : Nat) : Except Fault (Char × Cursor) := do
  let digits ← orMalformed (((List.range width).map c.peek).mapM Json.hexDigit?)
  let character ← characterOf (digits.foldl (fun n d => n * 16 + d) 0)
  return (character, c.skip width)

/-- Text in front of what was read. -/
def withLead (lead : List Char) (read : Except Fault Scanned) : Except Fault Scanned :=
  read.map fun (cs, after) => (lead ++ cs, after)

/-- The rest of a scalar in double quotes, and the place after the closing one. -/
def doubleQuoted : Nat → Cursor → Except Fault Scanned
  | 0, _ => .error .malformed
  | fuel + 1, c =>
    let d := c.here
    if d = '"' then .ok ([], c.next)
    else if d = '\\' then
      let e := c.next
      match escapeNames.lookup e.here, escapeWidths.lookup e.here with
      | some ch, _ => withLead [ch] (doubleQuoted fuel e.next)
      | none, some width => do
        let (ch, f) ← escapedCode e.next width
        withLead [ch] (doubleQuoted fuel f)
      | none, none => do
        let (_, f) ← orMalformed e.lineBreak?
        let (breaks, g) ← quotedBreaks (f.rest.length + 1) f
        withLead breaks (doubleQuoted fuel g)
    else if isSpaceOrTab d || isBreak d then
      let e := c.skipRun isSpaceOrTab
      match e.lineBreak? with
      | some (b, f) => do
        let (breaks, g) ← quotedBreaks (f.rest.length + 1) f
        withLead (foldBreaks b breaks) (doubleQuoted fuel g)
      | none => withLead (c.run isSpaceOrTab) (doubleQuoted fuel e)
    else if d = endMark then .error .malformed
    else withLead [d] (doubleQuoted fuel c.next)

/-- The rest of a scalar in single quotes, and the place after the closing one. -/
def singleQuoted : Nat → Cursor → Except Fault Scanned
  | 0, _ => .error .malformed
  | fuel + 1, c =>
    let d := c.here
    if d = '\'' then
      if c.peek 1 = '\'' then withLead ['\''] (singleQuoted fuel (c.skip 2))
      else .ok ([], c.next)
    else if isSpaceOrTab d || isBreak d then
      let e := c.skipRun isSpaceOrTab
      match e.lineBreak? with
      | some (b, f) => do
        let (breaks, g) ← quotedBreaks (f.rest.length + 1) f
        withLead (foldBreaks b breaks) (singleQuoted fuel g)
      | none => withLead (c.run isSpaceOrTab) (singleQuoted fuel e)
    else if d = endMark then .error .malformed
    else withLead [d] (singleQuoted fuel c.next)

/-! ### Plain scalars -/

/-- Whether a plain scalar ends in front of a place. -/
def plainEndsAt (inFlow : Bool) (c : Char) (following : Char) : Bool :=
  isGap c ||
    (c = ':' && (isGap following || (inFlow && ",[]\x7b\x7d".toList.contains following))) ||
    (inFlow && ",?[]\x7b\x7d".toList.contains c)

/-- The characters of a plain scalar up to where it ends or has a gap. -/
def plainRun (inFlow : Bool) : List Char → List Char
  | [] => []
  | c :: rest =>
    if plainEndsAt inFlow c (rest.headD endMark) then [] else c :: plainRun inFlow rest

/-- The breaks of empty lines inside a plain scalar, and the place after them and the spaces of the
line that follows; `none` where a document starts or ends. -/
def plainBreaks : Nat → Cursor → Option Scanned
  | 0, c => some ([], c)
  | fuel + 1, c =>
    if c.here = ' ' then plainBreaks fuel c.next
    else match c.lineBreak? with
      | some (b, after) =>
        if after.atDocumentMark then none
        else (plainBreaks fuel after).map fun (bs, e) => (b :: bs, e)
      | none => some ([], c)

/-- The gap inside a plain scalar: the text that it stands for, the place after it, and whether it
has a line break. -/
structure PlainGap where
  text : List Char
  after : Cursor
  hasBreak : Bool

/-- The gap after a piece of a plain scalar. Its text is empty if the scalar ends there. -/
def plainGap (c : Cursor) : PlainGap :=
  let spaces := c.run (· = ' ')
  let d := c.skipRun (· = ' ')
  match d.lineBreak? with
  | none => ⟨spaces, d, false⟩
  | some (b, e) =>
    if e.atDocumentMark then ⟨[], e, true⟩
    else match plainBreaks (e.rest.length + 1) e with
      | none => ⟨[], e, true⟩
      | some (breaks, f) => ⟨foldBreaks b breaks, f, true⟩

/-- A plain scalar, the place after it and the gap behind it, and whether that gap has a line
break. -/
def plainScalar (inFlow : Bool) (indent : Int) : Nat → Cursor → List Char × Cursor × Bool
  | 0, c => ([], c, false)
  | fuel + 1, c =>
    let piece := if c.here = '#' then [] else plainRun inFlow c.rest
    if piece.isEmpty then ([], c, false)
    else
      let gap := plainGap (c.skip piece.length)
      let d := gap.after
      if gap.text.isEmpty || d.here = '#' || (!inFlow && (d.column : Int) < indent) then
        (piece, d, gap.hasBreak)
      else
        match plainScalar inFlow indent fuel d with
        | ([], e, _) => (piece, e, gap.hasBreak)
        | (more, e, hasBreak) => (piece ++ gap.text ++ more, e, hasBreak)

/-! ### Blocks -/

/-- What happens to the line breaks at the end of a block. -/
inductive Chomping
  | strip
  | clip
  | keep
  deriving DecidableEq, Repr

/-- The indicators of a block: what happens at its end, and its indentation if it is given. -/
structure BlockHeader where
  chomping : Chomping
  increment : Option Nat

/-- The meaning of a sign in a block header. -/
def chompingSign? (c : Char) : Option Chomping :=
  if c = '+' then some .keep else if c = '-' then some .strip else none

/-- Reads the indentation in a block header, from one to nine. -/
def increment? (c : Char) : Option Nat :=
  if '1' ≤ c ∧ c ≤ '9' then some (c.toNat - 48) else none

/-- Reads the header of a block after its indicator. -/
def blockHeader? (c : Cursor) : Option (BlockHeader × Cursor) :=
  let (header, d) : BlockHeader × Cursor :=
    match chompingSign? c.here, increment? c.here with
    | some chomping, _ =>
      match increment? (c.peek 1) with
      | some n => (⟨chomping, some n⟩, c.skip 2)
      | none => (⟨chomping, none⟩, c.next)
    | none, some n =>
      match chompingSign? (c.peek 1) with
      | some chomping => (⟨chomping, some n⟩, c.skip 2)
      | none => (⟨.clip, some n⟩, c.next)
    | none, none => (⟨.clip, none⟩, c)
  if isBreakOrEnd d.here || d.here = ' ' then d.skipLineEnd?.map fun e => (header, e) else none

/-- The empty lines in front of a block, the place after them, and the widest indentation among
them. -/
def blockIndentation : Nat → Nat → Cursor → List Char × Cursor × Nat
  | 0, widest, c => ([], c, widest)
  | fuel + 1, widest, c =>
    if c.here = ' ' then
      let d := c.next
      blockIndentation fuel (max widest d.column) d
    else match c.lineBreak? with
      | some (b, d) =>
        let (breaks, e, w) := blockIndentation fuel widest d
        (b :: breaks, e, w)
      | none => ([], c, widest)

/-- The place after the spaces of a line, as far as the indentation goes. -/
def skipIndent (indent : Nat) : Nat → Cursor → Cursor
  | 0, c => c
  | fuel + 1, c => if c.column < indent && c.here = ' ' then skipIndent indent fuel c.next else c

/-- The empty lines inside a block, and the place after them and the indentation of the line that
follows. -/
def blockBreaks (indent : Nat) : Nat → Cursor → Scanned
  | 0, c => ([], c)
  | fuel + 1, c =>
    let d := skipIndent indent (indent + 1) c
    match d.lineBreak? with
    | some (b, e) =>
      let (bs, f) := blockBreaks indent fuel e
      (b :: bs, f)
    | none => ([], d)

/-- The lines of a block from one of its lines on, with its end, and the place after it. -/
def blockLines (folded : Bool) (chomping : Chomping) (indent : Nat) : Nat → Cursor → Scanned
  | 0, c => ([], c)
  | fuel + 1, c =>
    let line := c.run (!isBreakOrEnd ·)
    let d := c.skip line.length
    let ending := (d.lineBreak?.map Prod.fst).toList
    let e := d.skipBreak
    let (breaks, f) := blockBreaks indent (e.rest.length + 1) e
    if f.column = indent && f.here ≠ endMark then
      let joins := folded && ending = ['\n'] && !isSpaceOrTab c.here && !isSpaceOrTab f.here
      let between := if joins then (if breaks.isEmpty then [' '] else []) else ending
      let (more, after) := blockLines folded chomping indent fuel f
      (line ++ between ++ breaks ++ more, after)
    else
      let tail := match chomping with
        | .strip => []
        | .clip => ending
        | .keep => ending ++ breaks
      (line ++ tail, f)

/-- A block after its indicator. -/
def blockScalar? (folded : Bool) (parentIndent : Int) (c : Cursor) : Option Scanned := do
  let (header, d) ← blockHeader? c
  let least := (max 1 (parentIndent + 1)).toNat
  let fuel := d.rest.length + 1
  let (indent, breaks, e) := match header.increment with
    | some n =>
      let indent := least + n - 1
      let (breaks, e) := blockBreaks indent fuel d
      (indent, breaks, e)
    | none =>
      let (breaks, e, widest) := blockIndentation fuel 0 d
      (max least widest, breaks, e)
  if e.column = indent && e.here ≠ endMark then
    let (text, after) := blockLines folded header.chomping indent fuel e
    return (breaks ++ text, after)
  else return (if header.chomping = .keep then breaks else [], e)

end Triage.Yaml
