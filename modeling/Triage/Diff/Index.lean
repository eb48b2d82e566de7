import Triage.Diff.Patch
import Triage.OrderedMap

/-!
# Diff indexes

What a review needs to know of a patch: which lines of which file are in it, and hashes of a hunk
and of the lines around a comment, which stay the same when the hunk moves.
-/

namespace Triage

open Diff

/-- A place in a diff: a line of a file on a side. -/
structure Anchor where
  path : String
  side : Side
  line : Int
  deriving DecidableEq, Repr

/-- The hunks of a file. -/
structure FileDiff where
  path : String
  hunks : List Hunk
  deriving DecidableEq, Repr, Inhabited

/-- The files of a patch by path. -/
structure DiffIndex where
  files : OrderedMap String FileDiff
  deriving Repr, Inhabited

/-- The lines around a comment, on either hand, that its context holds. -/
def contextRadius : Nat := 3

/-- The numbers of the lines on a side, in order, each once. -/
def FileDiff.lines (f : FileDiff) (side : Side) : List Nat :=
  ((f.hunks.flatMap (·.lines side)).mergeSort (· ≤ ·)).eraseReps

/-- Whether a hunk has a line with a number on a side. -/
def Hunk.hasLine (h : Hunk) (side : Side) (line : Int) : Bool :=
  (h.lines side).any fun n => (n : Int) = line

namespace DiffIndex

/-- The index of no files. -/
def empty : DiffIndex := ⟨.empty⟩

/-- The index of sections. Of two sections with one path the later one counts. -/
def ofSections (sections : List FileSection) : DiffIndex :=
  ⟨.ofList (sections.map fun s => (s.path, ⟨s.path, s.hunks⟩))⟩

/-- The index of a patch, all hunks of which are hashed. -/
def ofPatch (text : String) : Except PatchError DiffIndex := do
  let sections ← readPatch text
  if sections.all fun s => s.hunks.all (·.isHashable) then return ofSections sections
  else throw (.limit .unencodable)

/-- The file at a path. -/
def file? (index : DiffIndex) (path : String) : Option FileDiff :=
  index.files.get? (Path.relative path)

/-- Whether a file is in the diff. -/
def hasPath (index : DiffIndex) (path : String) : Bool :=
  (index.file? path).isSome

/-- The first hunk that has the line of a place. -/
def hunkAt? (index : DiffIndex) (a : Anchor) : Option Hunk :=
  (index.file? a.path).bind fun f => f.hunks.find? (·.hasLine a.side a.line)

/-- Whether the line of a place is in the diff. -/
def hasLine (index : DiffIndex) (a : Anchor) : Bool :=
  (index.file? a.path).any fun f => f.hunks.any (·.hasLine a.side a.line)

/-- The hash of the hunk at a place; empty without one. -/
def hunkHash (index : DiffIndex) (a : Anchor) : String :=
  ((index.hunkAt? a).map Hunk.hash).getD ""

end DiffIndex

/-- The entries of a hunk around a line of a side: the entry of the line, and as many as the radius
says on either hand. -/
def Hunk.context (h : Hunk) (side : Side) (line : Int) : List Entry :=
  let changes := h.changes side
  let i := changes.findIdx fun c => (c.1 : Int) = line
  ((changes.drop (i - contextRadius)).take (min i contextRadius + contextRadius + 1)).map Prod.snd

/-- The hash of the lines around a place; empty if the place is not in the diff. -/
def DiffIndex.contextHash (index : DiffIndex) (a : Anchor) : String :=
  ((index.hunkAt? a).map fun h => signatureHash (h.context a.side a.line)).getD ""

end Triage
