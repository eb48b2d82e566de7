import Triage.Yaml.ScalarText
import Triage.Yaml.Token

/-!
# Reading tokens

The tokens of a YAML text. Indentation opens and closes block collections, and a scalar turns out to
be a key only when the colon behind it is met: until then its place among the tokens is remembered.
Brackets suspend indentation. A part that is no token gives `none`, or a fault where more than one
is possible.
-/

namespace Triage.Yaml

/-- A place where a key may begin: how many tokens stand before it, whether a key has to be there,
and where it is in the text. -/
structure PossibleKey where
  position : Nat
  isRequired : Bool
  index : Nat
  line : Nat
  column : Nat
  deriving Repr

/-- The state of the reader of tokens. -/
structure Lexer where
  cursor : Cursor
  /-- the tokens so far, the last one first -/
  tokens : List Token
  indent : Int
  /-- the indentations around the present one, the innermost first -/
  indents : List Int
  /-- how many brackets are open -/
  flowLevel : Nat
  /-- whether a key may begin here -/
  allowsKey : Bool
  /-- the possible keys of the open brackets and of the block around them, by level -/
  keys : List (Nat × PossibleKey)
  deriving Repr

namespace Lexer

/-- The longest text of a key in front of its colon. -/
def maxKeyLength : Nat := 1024

/-- The reader at the start of a text. -/
def ofText (cs : List Char) : Lexer :=
  ⟨.ofText cs, [], -1, [], 0, true, []⟩

/-- Adds a token. -/
def push (l : Lexer) (t : Token) : Lexer :=
  { l with tokens := t :: l.tokens }

/-- Moves over some characters. -/
def skip (l : Lexer) (n : Nat) : Lexer :=
  { l with cursor := l.cursor.skip n }

/-- Whether the text here is inside brackets. -/
def inFlow (l : Lexer) : Bool :=
  0 < l.flowLevel

/-- Adds a token in front of the last ones, at a position. -/
def insertAt (l : Lexer) (position : Nat) (t : Token) : Lexer :=
  { l with tokens := l.tokens.insertIdx (l.tokens.length - position) t }

/-! ### Possible keys -/

/-- Whether the line or the length of a possible key is over. -/
def isStale (l : Lexer) (k : PossibleKey) : Bool :=
  k.line ≠ l.cursor.line || maxKeyLength < l.cursor.index - k.index

/-- Forgets the possible keys that are over. None of them may be required. -/
def dropStaleKeys (l : Lexer) : Option Lexer :=
  if l.keys.any fun (_, k) => l.isStale k && k.isRequired then none
  else some { l with keys := l.keys.filter fun (_, k) => !l.isStale k }

/-- Forgets the possible key of the present level. It may not be required. -/
def dropKey (l : Lexer) : Option Lexer :=
  match l.keys.lookup l.flowLevel with
  | some k =>
    if k.isRequired then none
    else some { l with keys := l.keys.filter fun (level, _) => level ≠ l.flowLevel }
  | none => some l

/-- Remembers that a key may begin here. -/
def saveKey (l : Lexer) : Option Lexer :=
  if l.allowsKey then do
    let isRequired := !l.inFlow && l.indent = l.cursor.column
    let l ← l.dropKey
    let c := l.cursor
    return { l with
      keys := (l.flowLevel, ⟨l.tokens.length, isRequired, c.index, c.line, c.column⟩) :: l.keys }
  else some l

/-! ### Indentation -/

/-- Closes the collections that are indented more than a column. -/
def unwindTo (column : Int) : List Int → Lexer → Lexer
  | [], l => l
  | outer :: outers, l =>
    if column < l.indent then
      unwindTo column outers { l.push .blockEnd with indent := outer, indents := outers }
    else l

/-- Closes the collections that are indented more than a column, but none inside brackets. -/
def unwind (l : Lexer) (column : Int) : Lexer :=
  if l.inFlow then l else unwindTo column l.indents l

/-- Opens a collection at a column that is indented more than the present one. -/
def openAt (l : Lexer) (column : Nat) (position : Nat) (start : Token) : Lexer :=
  if l.indent < column then
    { l.insertAt position start with indent := column, indents := l.indent :: l.indents }
  else l

/-- Opens a collection here, outside brackets. -/
def openHere (l : Lexer) (start : Token) : Lexer :=
  if l.inFlow then l else l.openAt l.cursor.column l.tokens.length start

/-! ### Tokens -/

/-- Whether a character can stand in a name. -/
def isWordChar (c : Char) : Bool :=
  c.isAlphanum || c = '-' || c = '_'

/-- Reads a name after its indicator. -/
def name? (c : Cursor) : Option (String × Cursor) :=
  let name := c.run isWordChar
  let after := c.skipRun isWordChar
  let d := after.here
  if name.isEmpty then none
  else if isGap d || "?:,]\x7d%@\x60".toList.contains d then some (String.ofList name, after)
  else none

/-- Whether a character can stand in the text of a tag as it is. -/
def isTagChar (c : Char) : Bool :=
  c.isAlphanum || "-;/?:@&=+$,_.!~*'()[]%".toList.contains c

/-- The bytes that percent signs and digits write in a tag, and what follows them. -/
def percentBytes : List Char → List UInt8 × List Char
  | '%' :: a :: b :: rest =>
    match Json.hexDigit? a, Json.hexDigit? b with
    | some x, some y =>
      let (bytes, after) := percentBytes rest
      (UInt8.ofNat (x * 16 + y) :: bytes, after)
    | _, _ => ([], '%' :: a :: b :: rest)
  | cs => ([], cs)

/-- The text that percent signs write in a tag, if it is one. -/
def percentText : Nat → List Char → Option (List Char)
  | 0, _ => some []
  | _, [] => some []
  | fuel + 1, c :: rest =>
    if c = '%' then do
      let (bytes, after) := percentBytes (c :: rest)
      if bytes.isEmpty then none
      let text ← String.fromUTF8? ⟨bytes.toArray⟩
      let more ← percentText fuel after
      return text.toList ++ more
    else (percentText fuel rest).map (c :: ·)

/-- Reads the text of a tag. -/
def tagText? (c : Cursor) : Option (String × Cursor) := do
  let run := c.run isTagChar
  if run.isEmpty then none
  let text ← percentText run.length run
  return (String.ofList text, c.skip run.length)

/-- Reads the handle of a tag: a word between exclamation marks, or one mark. -/
def tagHandle? (c : Cursor) : Option (String × Cursor) :=
  let body := c.next
  let word := body.run isWordChar
  let after := body.skip word.length
  if c.here ≠ '!' then none
  else if body.here = ' ' then some ("!", body)
  else if after.here = '!' then some ("!" ++ String.ofList word ++ "!", after.next)
  else none

/-- Reads a tag. -/
def tag? (c : Cursor) : Option (TagName × Cursor) := do
  let (tag, after) ←
    if c.peek 1 = '<' then do
      let (text, d) ← tagText? (c.skip 2)
      if d.here = '>' then some (⟨none, text⟩, d.next) else none
    else if isGap (c.peek 1) then some (⟨none, "!"⟩, c.next)
    else
      let word := c.next.run fun d => !isBreakOrEnd d && d ≠ ' '
      if word.contains '!' then do
        let (handle, d) ← tagHandle? c
        let (text, e) ← tagText? d
        some (⟨some handle, text⟩, e)
      else do
        let (text, d) ← tagText? c.next
        some (⟨some "!", text⟩, d)
  if isBreakOrEnd after.here || after.here = ' ' then some (tag, after) else none

/-- Reads a number of ASCII digits. -/
def number (c : Cursor) : Except Fault (Nat × Cursor) :=
  let digits := c.run Char.isDigit
  if digits.isEmpty then .error .malformed
  else if maxIntegerDigits < digits.length then .error (.limit (.tooLongToRead digits.length))
  else .ok (Json.decimalValue digits, c.skip digits.length)

/-- Whether a blank or the end of the line is here. -/
def isWordEnd (c : Cursor) : Bool :=
  isBreakOrEnd c.here || c.here = ' '

/-- Reads the two numbers of a version. -/
def version (c : Cursor) : Except Fault (Directive × Cursor) := do
  let (major, d) ← number c
  if d.here ≠ '.' then throw .malformed
  let (minor, e) ← number d.next
  if isWordEnd e then return (.version major minor, e) else throw .malformed

/-- Reads the handle and the text of a namespace of tags. -/
def namespaceTag? (c : Cursor) : Option (Directive × Cursor) := do
  let (handle, d) ← tagHandle? c
  if d.here ≠ ' ' then none
  let (text, e) ← tagText? (d.skipRun (· = ' '))
  if isWordEnd e then some (.namespaceTag handle text, e) else none

/-- Reads a directive after its percent sign, through the end of its line. -/
def directive (c : Cursor) : Except Fault (Directive × Cursor) := do
  let name := c.run isWordChar
  let after := c.skipRun isWordChar
  if name.isEmpty || !isWordEnd after then throw .malformed
  let body := after.skipRun (· = ' ')
  let (d, e) ←
    if name = "YAML".toList then version body
    else if name = "TAG".toList then orMalformed (namespaceTag? body)
    else pure (Directive.reserved, after.skipRun (!isBreakOrEnd ·))
  let f ← orMalformed e.skipLineEnd?
  return (d, f)

/-- Adds a token that may begin a key, with the place after it. -/
def pushKeyed (l : Lexer) (found : Except Fault (Token × Cursor)) : Except Fault Lexer := do
  let l ← orMalformed l.saveKey
  let (t, after) ← found
  return { l.push t with allowsKey := false, cursor := after }

/-- Adds the start of a collection in brackets. -/
def openFlow (l : Lexer) (t : Token) : Option Lexer := do
  let l ← l.saveKey
  return { (l.skip 1).push t with flowLevel := l.flowLevel + 1, allowsKey := true }

/-- Adds the end of a collection in brackets. -/
def closeFlow (l : Lexer) (t : Token) : Option Lexer := do
  if l.flowLevel = 0 then none
  let l ← l.dropKey
  return { (l.skip 1).push t with flowLevel := l.flowLevel - 1, allowsKey := false }

/-- Adds the mark of an item or of a key, which opens a collection outside brackets. -/
def pushIndicator (l : Lexer) (start t : Token) (allowsKey : Bool) : Option Lexer := do
  if !l.inFlow && !l.allowsKey then none
  let l ← (l.openHere start).dropKey
  return { (l.skip 1).push t with allowsKey := allowsKey }

/-- Adds the mark of a value. If a key may have begun on this level, it did. -/
def pushValue (l : Lexer) : Option Lexer :=
  match l.keys.lookup l.flowLevel with
  | some k =>
    let rest := l.keys.filter fun (level, _) => level ≠ l.flowLevel
    let l := { l with keys := rest }.insertAt k.position .key
    let l := if l.inFlow then l else l.openAt k.column k.position .blockMappingStart
    some { (l.skip 1).push .value with allowsKey := false }
  | none => l.pushIndicator .blockMappingStart .value (!l.inFlow)

/-- Adds a scalar in quotes. -/
def pushQuoted (l : Lexer) (read : Nat → Cursor → Except Fault Scanned) : Except Fault Lexer :=
  let c := l.cursor.next
  l.pushKeyed <| (read (c.rest.length + 1) c).map fun (cs, d) =>
    (.scalar (String.ofList cs) false, d)

/-- Adds a block. -/
def pushBlock (l : Lexer) (folded : Bool) : Option Lexer := do
  let l ← l.dropKey
  let (cs, after) ← blockScalar? folded l.indent l.cursor.next
  return { l.push (.scalar (String.ofList cs) false) with allowsKey := true, cursor := after }

/-- Adds a plain scalar. -/
def pushPlain (l : Lexer) : Option Lexer := do
  let l ← l.saveKey
  let c := l.cursor
  let (cs, after, hasBreak) := plainScalar l.inFlow (l.indent + 1) (c.rest.length + 1) c
  return { l.push (.scalar (String.ofList cs) true) with allowsKey := hasBreak, cursor := after }

/-- Adds the mark of the start or the end of a document. -/
def pushDocument (l : Lexer) (t : Token) : Option Lexer := do
  let l ← (l.unwind (-1)).dropKey
  return { (l.skip 3).push t with allowsKey := false }

/-- Adds a directive. -/
def pushDirective (l : Lexer) : Except Fault Lexer := do
  let l ← orMalformed (l.unwind (-1)).dropKey
  let (d, after) ← directive l.cursor.next
  return { l.push (.directive d) with allowsKey := false, cursor := after }

/-! ### The whole -/

/-- Moves over spaces, comments and ends of lines. Outside brackets a key may begin on a new
line. -/
def skipToToken : Nat → Lexer → Lexer
  | 0, l => l
  | fuel + 1, l =>
    let c := (l.cursor.skipRun (· = ' ')).skipComment
    match c.lineBreak? with
    | some (_, d) =>
      skipToToken fuel { l with cursor := d, allowsKey := l.allowsKey || !l.inFlow }
    | none => { l with cursor := c }

/-- Whether a plain scalar can begin with a character in front of another one. -/
def startsPlain (inFlow : Bool) (c following : Char) : Bool :=
  (!isGap c && !("-?:,[]\x7b\x7d#&*!|>'\"%@\x60".toList.contains c)) ||
    (!isGap following && (c = '-' || (!inFlow && (c = '?' || c = ':'))))

/-- Adds a name after its indicator. -/
def pushName (l : Lexer) (token : String → Token) : Except Fault Lexer :=
  l.pushKeyed <| orMalformed <| (name? l.cursor.next).map fun (s, d) => (token s, d)

/-- Adds a token that begins with a character that is no indicator of its own. -/
def pushOther (l : Lexer) : Option Lexer :=
  let c := l.cursor
  let d := c.here
  let following := c.peek 1
  let atLineStart := c.column = 0
  if atLineStart ∧ c.atMark "---" then l.pushDocument .documentStart
  else if atLineStart ∧ c.atMark "..." then l.pushDocument .documentEnd
  else if d = '-' ∧ isGap following then l.pushIndicator .blockSequenceStart .blockEntry true
  else if d = '?' ∧ (l.inFlow ∨ isGap following) then
    l.pushIndicator .blockMappingStart .key (!l.inFlow)
  else if d = ':' ∧ (l.inFlow ∨ isGap following) then l.pushValue
  else if (d = '|' ∨ d = '>') ∧ !l.inFlow then l.pushBlock (d = '>')
  else if startsPlain l.inFlow d following then l.pushPlain
  else none

/-- Adds the comma between the parts of a collection in brackets. -/
def pushComma (l : Lexer) : Option Lexer := do
  let l ← l.dropKey
  return { (l.skip 1).push .flowEntry with allowsKey := true }

/-- Reads the next token at a place where one begins. -/
def pushNext (l : Lexer) : Except Fault Lexer :=
  match l.cursor.here with
  | '[' => orMalformed (l.openFlow .flowSequenceStart)
  | '\x7b' => orMalformed (l.openFlow .flowMappingStart)
  | ']' => orMalformed (l.closeFlow .flowSequenceEnd)
  | '\x7d' => orMalformed (l.closeFlow .flowMappingEnd)
  | ',' => orMalformed l.pushComma
  | '*' => l.pushName .reference
  | '&' => l.pushName .anchor
  | '!' => l.pushKeyed (orMalformed ((tag? l.cursor).map fun (t, d) => (.tag t, d)))
  | '%' => if l.cursor.column = 0 then l.pushDirective else .error .malformed
  | '\'' => l.pushQuoted singleQuoted
  | '"' => l.pushQuoted doubleQuoted
  | _ => orMalformed l.pushOther

/-- The reader in front of the next token, which may be the end of the text. -/
def toNextToken (l : Lexer) : Option Lexer := do
  let l ← (skipToToken (l.cursor.rest.length + 1) l).dropStaleKeys
  return l.unwind l.cursor.column

/-- The tokens so far, and the fault that comes after them. From the first one on that may yet begin
a key, nothing is sure before the fault. -/
def faultAfter (l : Lexer) (f : Fault) : List Token :=
  let pending := l.keys.filter fun (_, k) => !l.isStale k
  let sure := (pending.map fun (_, k) => k.position).foldl min l.tokens.length
  l.tokens.reverse.take sure ++ [.fault f]

/-- All tokens of a text that ends here. -/
def allTokens (l : Lexer) : List Token :=
  match (l.unwind (-1)).dropKey with
  | some l => l.tokens.reverse
  | none => l.faultAfter .malformed

/-- Reads all tokens up to the first fault. Each of them takes at least one character, so the length
of the text is fuel enough. -/
def readAll : Nat → Lexer → List Token
  | 0, l => l.faultAfter .malformed
  | fuel + 1, l =>
    match l.toNextToken with
    | none => l.faultAfter .malformed
    | some m =>
      if m.cursor.rest.isEmpty then m.allTokens
      else match m.pushNext with
        | .ok next => readAll fuel next
        | .error f => l.faultAfter f

end Lexer

/-- Whether a text may hold a character. -/
def isAllowed (c : Char) : Bool :=
  let n := c.toNat
  n = 0x09 || n = 0x0A || n = 0x0D || (0x20 ≤ n && n ≤ 0x7E) || n = 0x85 ||
    (0xA0 ≤ n && n ≤ 0xFFFD) || 0x10000 ≤ n

/-- The tokens of a text, the last one being its fault if it has one. A mark of the byte order at
its start is no part of it. -/
def tokens (text : String) : List Token :=
  let cs := text.toList
  if cs.all isAllowed then
    let body := match cs with
      | '\uFEFF' :: rest => rest
      | _ => cs
    Lexer.readAll (body.length + 1) (.ofText body)
  else [.fault .malformed]

end Triage.Yaml
