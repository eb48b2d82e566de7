import Triage.Digest.Sha256
import Triage.Text.Quoted
import Triage.Vocabulary

/-!
# Hunks

A hunk of a diff is a list of added, deleted and unchanged lines with the numbers of its first lines
on both sides. Its lines are numbered one after another on each side on which they exist; its hash
depends on the lines alone and not on their numbers.
-/

namespace Triage

/-- What happened to a line. -/
inductive LineKind
  | add
  | del
  | normal
  deriving DecidableEq, Repr, Inhabited

instance : Vocabulary LineKind where
  all := [.add, .del, .normal]
  word
    | .add => "add"
    | .del => "del"
    | .normal => "normal"

/-- Whether lines of a kind exist on a side. -/
def LineKind.isOn : LineKind → Side → Bool
  | add, .left => false
  | del, .right => false
  | _, _ => true

/-- A line of a hunk, without its line feed. -/
structure Entry where
  kind : LineKind
  content : String
  deriving DecidableEq, Repr, Inhabited

/-- Lines with what happened to them, one under another. -/
def signature (entries : List Entry) : String :=
  "\n".intercalate (entries.map fun e => Vocabulary.word e.kind ++ ":" ++ e.content)

/-- The hash of lines. -/
def signatureHash (entries : List Entry) : String :=
  Digest.Sha256.hex (signature entries)

/-- A hunk of a diff. -/
structure Hunk where
  leftStart : Nat
  rightStart : Nat
  entries : List Entry
  deriving DecidableEq, Repr, Inhabited

/-- The entries that exist on a side, numbered from a line on. -/
def numberFrom (side : Side) (line : Nat) : List Entry → List (Nat × Entry)
  | [] => []
  | e :: rest =>
    if e.kind.isOn side then (line, e) :: numberFrom side (line + 1) rest
    else numberFrom side line rest

namespace Hunk

/-- The number of the first line on a side. -/
def start (h : Hunk) : Side → Nat
  | .right => h.rightStart
  | .left => h.leftStart

/-- The entries on a side with their line numbers. -/
def changes (h : Hunk) (side : Side) : List (Nat × Entry) :=
  numberFrom side (h.start side) h.entries

/-- The line numbers on a side. -/
def lines (h : Hunk) (side : Side) : List Nat :=
  (h.changes side).map Prod.fst

/-- The hash of the hunk. -/
def hash (h : Hunk) : String :=
  signatureHash h.entries

/-- Whether the entries have bytes, so that they can be hashed. -/
def isHashable (h : Hunk) : Bool :=
  h.entries.all fun e => Text.isEncodable e.content

end Hunk

end Triage
