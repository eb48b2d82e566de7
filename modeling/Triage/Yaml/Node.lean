import Triage.Yaml.Kind
import Triage.Yaml.Lexer

/-!
# Nodes

The tree of a YAML document: scalars, lists and tables with their full tags. A node may have a name,
by which aliases elsewhere stand for it, also inside itself. Every node has a place of its own among
the tokens, which tells it from all others. A text has one document.
-/

namespace Triage.Yaml

/-- A node. The tag is `none` unless one was written. -/
inductive Node
  | scalar (place : Nat) (tag : Option String) (isPlain : Bool) (text : String)
  | list (place : Nat) (tag : Option String) (items : List Node)
  | table (place : Nat) (tag : Option String) (entries : List (Node × Node))
  /-- the node that has a name -/
  | reference (name : String)
  deriving Inhabited

/-- The kind that a tag gives, or another one if the tag leaves it open. -/
def kindUnder (tag : Option String) (otherwise : Kind) : Kind :=
  match tag with
  | none => otherwise
  | some t => if t = "!" then otherwise else .ofTag t

/-- The kind of a node: by its tag, or else by its looks if it is a plain scalar. A tag that leaves
the kind open makes any scalar a plain one. -/
def Node.kind : Node → Kind
  | scalar _ tag isPlain text =>
    kindUnder tag (if isPlain || tag.isSome then .ofLooks text else .text)
  | list _ tag _ => kindUnder tag .list
  | table _ tag _ => kindUnder tag .table
  | reference _ => .unknown

/-- The tree of a document, with the nodes that have names. -/
structure Document where
  root : Node
  named : List (String × Node)

/-- The node that a node stands for, if it is an alias. -/
def Document.target (d : Document) : Node → Node
  | .reference name => (d.named.lookup name).getD (.reference name)
  | n => n

/-- The state of the reader of nodes: the tokens that are left, how many were passed over, the nodes
that have names, the names of the nodes under way, the namespaces of tags, and how many nodes are
around the present one. -/
structure NodeReader where
  tokens : List Token
  index : Nat
  named : List (String × Node)
  openNames : List String
  handles : List (String × String)
  depth : Nat

namespace NodeReader

/-- The namespaces that need no directive. -/
def defaultHandles : List (String × String) :=
  [("!", "!"), ("!!", standardNamespace)]

/-- The next token. -/
def next? (c : NodeReader) : Option Token := c.tokens.head?

/-- Passes over some tokens. -/
def skip (c : NodeReader) (n : Nat) : NodeReader :=
  { c with tokens := c.tokens.drop n, index := c.index + n }

/-- Passes over the next token. -/
def advance (c : NodeReader) : NodeReader := c.skip 1

/-- Whether the next token is one of several. -/
def isNext (c : NodeReader) (ts : List Token) : Bool :=
  c.next?.any (ts.contains ·)

/-- The fault of a text in which some tokens cannot come next: the one that is among them, or that
they do come next. -/
def faultOf (tokens : List Token) : Fault :=
  match tokens with
  | .fault f :: _ => f
  | _ => .malformed

/-- The fault of a text in which the next token cannot come here. -/
def unexpected (c : NodeReader) : Fault := faultOf c.tokens

/-- Passes over one token that has to come next. -/
def expect (c : NodeReader) (t : Token) : Except Fault NodeReader :=
  if c.next? = some t then .ok c.advance else .error c.unexpected

/-- The full tag that a written one means. -/
def fullTag (c : NodeReader) (t : TagName) : Except Fault String :=
  match t.handle with
  | none => .ok t.suffix
  | some handle => orMalformed ((c.handles.lookup handle).map (· ++ t.suffix))

/-- The name and the tag in front of a node, in either order. -/
structure Properties where
  anchor : Option String
  tag : Option String

/-- Reads the name and the tag in front of a node. -/
def properties (c : NodeReader) : Except Fault (Properties × NodeReader) :=
  match c.tokens with
  | .anchor a :: .tag t :: _ => (c.fullTag t).map fun tag => (⟨some a, some tag⟩, c.skip 2)
  | .tag t :: .anchor a :: _ => (c.fullTag t).map fun tag => (⟨some a, some tag⟩, c.skip 2)
  | .anchor a :: _ => .ok (⟨some a, none⟩, c.skip 1)
  | .tag t :: _ => (c.fullTag t).map fun tag => (⟨none, some tag⟩, c.skip 1)
  | _ => .ok (⟨none, none⟩, c)

/-- Whether a name belongs to a node, which may be under way. -/
def hasName (c : NodeReader) (name : String) : Bool :=
  c.openNames.contains name || (c.named.lookup name).isSome

/-- Enters a node, whose name no other node may have. -/
def enter [Nesting] (c : NodeReader) (anchor : Option String) : Except Fault NodeReader :=
  if let .fault f :: _ := c.tokens then .error f
  else if anchor.any c.hasName then .error .malformed
  else if Nesting.nodes ≤ c.depth then .error (.limit .tooDeep)
  else .ok { c with openNames := anchor.toList ++ c.openNames, depth := c.depth + 1 }

/-- Leaves a node and gives it its name. -/
def leave (c : NodeReader) (anchor : Option String) (n : Node) : NodeReader :=
  { c with
    named := (anchor.map fun a => (a, n)).toList ++ c.named
    openNames := c.openNames.drop anchor.toList.length
    depth := c.depth - 1 }

/-- Where a node stands: inside brackets, in a block, or as a key or value of a block, where the
items of a list need not be indented. -/
inductive Position
  | flow
  | block
  | blockEntry
  deriving DecidableEq

/-- What is known of a node before its content: its place and its tag. -/
structure NodeHead where
  place : Nat
  tag : Option String

/-- The node of nothing, here. -/
def emptyNode (c : NodeReader) : Node := .scalar c.index none true ""

section

variable [Nesting]

mutual

/-- Reads a node. Every step takes from `fuel`; at least every fourth step passes over a token, so
four times their count is enough. -/
def node (fuel : Nat) (position : Position) (c : NodeReader) : Except Fault (Node × NodeReader) :=
  match fuel with
  | 0 => .error .malformed
  | fuel + 1 =>
    match c.tokens with
    | .reference a :: _ =>
      if c.hasName a then .ok (.reference a, c.advance) else .error .malformed
    | _ => do
      let place := c.index
      let (p, c) ← c.properties
      let c ← c.enter p.anchor
      let (n, c) ← content fuel position p.anchor.isSome ⟨place, p.tag⟩ c
      return (n, c.leave p.anchor n)

/-- Reads what follows the name and the tag of a node. -/
def content (fuel : Nat) (position : Position) (hasName : Bool) (head : NodeHead)
    (c : NodeReader) : Except Fault (Node × NodeReader) :=
  match fuel with
  | 0 => .error .malformed
  | fuel + 1 =>
    match c.next? with
    | some (.scalar text isPlain) => .ok (.scalar head.place head.tag isPlain text, c.advance)
    | some .flowSequenceStart => flowItems fuel head [] c.advance
    | some .flowMappingStart => flowEntries fuel head [] c.advance
    | some .blockSequenceStart =>
      if position = .flow then orEmpty hasName head c else blockItems fuel head [] c.advance
    | some .blockMappingStart =>
      if position = .flow then orEmpty hasName head c else blockEntries fuel head [] c.advance
    | some .blockEntry =>
      if position = .blockEntry then looseItems fuel head [] c else orEmpty hasName head c
    | _ => orEmpty hasName head c

/-- The node of nothing, which needs a name or a tag. -/
def orEmpty (hasName : Bool) (head : NodeHead) (c : NodeReader) :
    Except Fault (Node × NodeReader) :=
  if hasName || head.tag.isSome then .ok (.scalar head.place head.tag head.tag.isNone "", c)
  else .error c.unexpected

/-- Reads a node unless one of some tokens is next, which stand for the node of nothing. -/
def nodeUnless (fuel : Nat) (position : Position) (ends : List Token) (c : NodeReader) :
    Except Fault (Node × NodeReader) :=
  match fuel with
  | 0 => .error .malformed
  | fuel + 1 => if c.isNext ends then .ok (c.emptyNode, c) else node fuel position c

/-- Reads a value behind its mark, if the mark is there. -/
def valueUnless (fuel : Nat) (position : Position) (ends : List Token) (c : NodeReader) :
    Except Fault (Node × NodeReader) :=
  match fuel with
  | 0 => .error .malformed
  | fuel + 1 =>
    if c.next? = some .value then nodeUnless fuel position ends c.advance else .ok (c.emptyNode, c)

/-- Reads the items of an indented list. -/
def blockItems (fuel : Nat) (head : NodeHead) (items : List Node) (c : NodeReader) :
    Except Fault (Node × NodeReader) :=
  match fuel with
  | 0 => .error .malformed
  | fuel + 1 =>
    if c.next? = some .blockEntry then do
      let (n, c) ← nodeUnless fuel .block [.blockEntry, .blockEnd] c.advance
      blockItems fuel head (n :: items) c
    else do
      let c ← c.expect .blockEnd
      return (.list head.place head.tag items.reverse, c)

/-- Reads the items of a list that is not indented more than what is around it. -/
def looseItems (fuel : Nat) (head : NodeHead) (items : List Node) (c : NodeReader) :
    Except Fault (Node × NodeReader) :=
  match fuel with
  | 0 => .error .malformed
  | fuel + 1 =>
    if c.next? = some .blockEntry then do
      let (n, c) ← nodeUnless fuel .block [.blockEntry, .key, .value, .blockEnd] c.advance
      looseItems fuel head (n :: items) c
    else .ok (.list head.place head.tag items.reverse, c)

/-- Reads the entries of an indented table. -/
def blockEntries (fuel : Nat) (head : NodeHead) (entries : List (Node × Node))
    (c : NodeReader) : Except Fault (Node × NodeReader) :=
  match fuel with
  | 0 => .error .malformed
  | fuel + 1 =>
    if c.next? = some .key then do
      let (k, c) ← nodeUnless fuel .blockEntry [.key, .value, .blockEnd] c.advance
      let (v, c) ← valueUnless fuel .blockEntry [.key, .value, .blockEnd] c
      blockEntries fuel head ((k, v) :: entries) c
    else do
      let c ← c.expect .blockEnd
      return (.table head.place head.tag entries.reverse, c)

/-- Reads the items of a list in brackets. An item that is a key alone or with a value is a table
of its own. -/
def flowItems (fuel : Nat) (head : NodeHead) (items : List Node) (c : NodeReader) :
    Except Fault (Node × NodeReader) :=
  match fuel with
  | 0 => .error .malformed
  | fuel + 1 =>
    let finished := Node.list head.place head.tag items.reverse
    if c.next? = some .flowSequenceEnd then .ok (finished, c.advance)
    else do
      let c ← if items.isEmpty then pure c else c.expect .flowEntry
      if c.next? = some .flowSequenceEnd then .ok (finished, c.advance)
      else if c.next? = some .key then do
        let place := c.index
        let (k, c) ← nodeUnless fuel .flow [.value, .flowEntry, .flowSequenceEnd] c.advance
        let (v, c) ← valueUnless fuel .flow [.flowEntry, .flowSequenceEnd] c
        flowItems fuel head (.table place none [(k, v)] :: items) c
      else do
        let (n, c) ← node fuel .flow c
        flowItems fuel head (n :: items) c

/-- Reads the entries of a table in brackets. -/
def flowEntries (fuel : Nat) (head : NodeHead) (entries : List (Node × Node)) (c : NodeReader) :
    Except Fault (Node × NodeReader) :=
  match fuel with
  | 0 => .error .malformed
  | fuel + 1 =>
    let finished := Node.table head.place head.tag entries.reverse
    if c.next? = some .flowMappingEnd then .ok (finished, c.advance)
    else do
      let c ← if entries.isEmpty then pure c else c.expect .flowEntry
      if c.next? = some .flowMappingEnd then .ok (finished, c.advance)
      else if c.next? = some .key then do
        let (k, c) ← nodeUnless fuel .flow [.value, .flowEntry, .flowMappingEnd] c.advance
        let (v, c) ← valueUnless fuel .flow [.flowEntry, .flowMappingEnd] c
        flowEntries fuel head ((k, v) :: entries) c
      else do
        let (k, c) ← node fuel .flow c
        flowEntries fuel head ((k, c.emptyNode) :: entries) c

end

end

/-! ### Documents -/

/-- Takes the directives in front of a document into account: at most one version, which has to be
a first one, and each namespace once. -/
def directives (versionSeen : Bool) (seen : List (String × String)) :
    List Token → Option (List (String × String) × List Token)
  | .directive d :: rest =>
    match d with
    | .version major _ =>
      if versionSeen || major ≠ 1 then none else directives true seen rest
    | .namespaceTag handle tagPrefix =>
      if (seen.lookup handle).isSome then none
      else directives versionSeen ((handle, tagPrefix) :: seen) rest
    | .reserved => directives versionSeen seen rest
  | tokens => some (seen ++ defaultHandles, tokens)

/-- Makes sure that nothing follows a document but marks that it ends. The directives of another
document are still read. -/
def endsHere (tokens : List Token) : Except Fault Unit :=
  match tokens.dropWhile (· = .documentEnd) with
  | [] => .ok ()
  | rest => (orMalformed (directives false [] rest)).bind fun (_, after) => .error (faultOf after)

/-- The tree of a document that begins at some tokens. -/
def documentAt [Nesting] (handles : List (String × String)) (tokens : List Token) :
    Except Fault Document := do
  let (root, c) ← node (4 * tokens.length + 4) .block ⟨tokens, 0, [], [], handles, 0⟩
  endsHere c.tokens
  return ⟨root, c.named⟩

/-- The document of nothing. -/
def emptyDocument : Document := ⟨.scalar 0 none true "", []⟩

/-- Whether a token is about documents and not part of one. -/
def isDocumentToken : Token → Bool
  | .directive _ => true
  | .documentStart => true
  | .documentEnd => true
  | _ => false

/-- Reads a document behind the mark of its start. It may be empty. -/
def afterStart [Nesting] (handles : List (String × String)) (body : List Token) :
    Except Fault Document :=
  if body.head?.all isDocumentToken then (endsHere body).map fun _ => emptyDocument
  else documentAt handles body

/-- The only document among tokens; a text without tokens has the document of nothing. -/
def document [Nesting] (tokens : List Token) : Except Fault Document :=
  match tokens with
  | [] => .ok emptyDocument
  | .directive _ :: _ | .documentStart :: _ => do
    let (handles, rest) ← orMalformed (directives false [] tokens)
    match rest with
    | .documentStart :: body => afterStart handles body
    | _ => throw (faultOf rest)
  | _ => documentAt defaultHandles tokens

end NodeReader

end Triage.Yaml
