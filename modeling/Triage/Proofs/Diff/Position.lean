import Triage.Proofs.Diff.Lookup

/-!
# Hashes do not depend on positions

The hunk at a place is the first one of the last section on the file that has the line. Its hash is
that of its entries, and the context hash is that of the entries around the line on its side, which
are told by the offset of the line in the hunk (`Hunk.context_eq`). So both hashes are the same
wherever the entries stand (`hashes_eq_of_entries_eq`).
-/

namespace Triage

open Diff

variable {text text' : String} {sections sections' : List FileSection} {index index' : DiffIndex}
  {h h' : Hunk} {k : ℕ} {a a' : Anchor}

/-- Whether a place is the line of a hunk that lies so many lines below the first one on its side.
The hunk is one of the last section on the file, and no hunk in front of it there has the line. -/
structure IsPlacedIn (sections : List FileSection) (h : Hunk) (k : ℕ) (a : Anchor) : Prop where
  line : a.line = ((h.start a.side + k : ℕ) : Int)
  inside : k < (h.entriesOn a.side).length
  first : ∃ s before after, lastSection? sections (Path.relative a.path) = some s ∧
    s.hunks = before ++ h :: after ∧ ∀ g ∈ before, g.hasLine a.side a.line = false

theorem IsPlacedIn.hunkAt? (ha : IsPlacedIn sections h k a) :
    (DiffIndex.ofSections sections).hunkAt? a = some h := by
  obtain ⟨s, before, after, hlast, hhunks, hbefore⟩ := ha.first
  have hline : h.hasLine a.side a.line = true := by
    rw [ha.line]
    exact Hunk.hasLine_of_offset ha.inside
  have hnone : before.find? (·.hasLine a.side a.line) = none := by
    rw [List.find?_eq_none]
    intro g hg
    simp [hbefore g hg]
  rw [DiffIndex.hunkAt?, file?_ofSections, hlast]
  show s.hunks.find? (·.hasLine a.side a.line) = some h
  rw [hhunks, List.find?_append, hnone, Option.none_or, List.find?_cons, hline]

theorem IsPlacedIn.hunkHash (ha : IsPlacedIn sections h k a) :
    (DiffIndex.ofSections sections).hunkHash a = signatureHash h.entries := by
  rw [DiffIndex.hunkHash, ha.hunkAt?]
  rfl

theorem IsPlacedIn.contextHash (ha : IsPlacedIn sections h k a) :
    (DiffIndex.ofSections sections).contextHash a =
      signatureHash (Hunk.around (h.entriesOn a.side) k) := by
  rw [DiffIndex.contextHash, ha.hunkAt?, Option.map_some, Option.getD_some, ha.line,
    Hunk.context_eq ha.inside]

/-- Two comments on one side, as deep in hunks with the same entries, have the same hashes, in
whichever patches and at whichever lines the hunks stand. -/
theorem hashes_eq_of_entries_eq (hread : Diff.readPatch text = .ok sections)
    (hread' : Diff.readPatch text' = .ok sections') (hindex : DiffIndex.ofPatch text = .ok index)
    (hindex' : DiffIndex.ofPatch text' = .ok index') (hentries : h.entries = h'.entries)
    (hside : a.side = a'.side) (ha : IsPlacedIn sections h k a)
    (ha' : IsPlacedIn sections' h' k a') :
    index.hunkHash a = index'.hunkHash a' ∧ index.contextHash a = index'.contextHash a' ∧
      index.hunkHash a = h.hash ∧
      index.contextHash a = signatureHash (Hunk.around (h.entriesOn a.side) k) := by
  obtain ⟨_, hsections, -, rfl⟩ := ofPatch_eq_ok_iff.mp hindex
  obtain rfl := Except.ok.inj (hread.symm.trans hsections)
  obtain ⟨_, hsections', -, rfl⟩ := ofPatch_eq_ok_iff.mp hindex'
  obtain rfl := Except.ok.inj (hread'.symm.trans hsections')
  have hsame : h.entriesOn a.side = h'.entriesOn a'.side := by
    rw [Hunk.entriesOn, Hunk.entriesOn, hentries, hside]
  refine ⟨?_, ?_, ha.hunkHash, ha.contextHash⟩
  · rw [ha.hunkHash, ha'.hunkHash, hentries]
  · rw [ha.contextHash, ha'.contextHash, hsame]

/-- A hunk at the top of a file. -/
def hunkOnTop : Hunk :=
  ⟨1, 1, [⟨.normal, "one"⟩, ⟨.add, "two"⟩]⟩

/-- The same lines further down. -/
def hunkFurtherDown : Hunk :=
  { hunkOnTop with leftStart := 9, rightStart := 10 }

def patchOnTop : String :=
  "--- a/x.py\n+++ b/x.py\n@@ -1 +1,2 @@\n one\n+two\n"

def sectionOnTop : FileSection :=
  ⟨"a/x.py", "b/x.py", [hunkOnTop]⟩

/-- A patch in which another file and another hunk come first. -/
def patchFurtherDown : String :=
  "--- a/w.py\n+++ b/w.py\n@@ -1 +1 @@\n-six\n+ten\n" ++
    "--- a/x.py\n+++ b/x.py\n@@ -1 +1,2 @@\n two\n+one\n@@ -9 +10,2 @@\n one\n+two\n"

def sectionInFront : FileSection :=
  ⟨"a/w.py", "b/w.py", [⟨1, 1, [⟨.del, "six"⟩, ⟨.add, "ten"⟩]⟩]⟩

def sectionFurtherDown : FileSection :=
  ⟨"a/x.py", "b/x.py", [⟨1, 1, [⟨.normal, "two"⟩, ⟨.add, "one"⟩]⟩, hunkFurtherDown]⟩

/-- The hashes of the second line of the hunk are the same in both patches. -/
theorem hashes_hunkFurtherDown :
    ∃ index index', DiffIndex.ofPatch patchOnTop = .ok index ∧
      DiffIndex.ofPatch patchFurtherDown = .ok index' ∧
      index.hunkHash ⟨"x.py", .right, 2⟩ = index'.hunkHash ⟨"./x.py", .right, 11⟩ ∧
      index.contextHash ⟨"x.py", .right, 2⟩ = index'.contextHash ⟨"./x.py", .right, 11⟩ := by
  have hread : Diff.readPatch patchOnTop = .ok [sectionOnTop] := by decide +kernel
  have hread' : Diff.readPatch patchFurtherDown = .ok [sectionInFront, sectionFurtherDown] := by
    decide +kernel
  have hindex := ofPatch_eq_ok_iff.mpr ⟨_, hread, by decide +kernel, rfl⟩
  have hindex' := ofPatch_eq_ok_iff.mpr ⟨_, hread', by decide +kernel, rfl⟩
  have hplace : IsPlacedIn [sectionOnTop] hunkOnTop 1 ⟨"x.py", .right, 2⟩ :=
    ⟨rfl, by decide, sectionOnTop, [], [], by decide +kernel, rfl, by simp⟩
  have hplace' : IsPlacedIn [sectionInFront, sectionFurtherDown] hunkFurtherDown 1
      ⟨"./x.py", .right, 11⟩ :=
    ⟨rfl, by decide, sectionFurtherDown, [⟨1, 1, [⟨.normal, "two"⟩, ⟨.add, "one"⟩]⟩], [],
      by decide +kernel, rfl, by decide +kernel⟩
  obtain ⟨hhunk, hcontext, -⟩ :=
    hashes_eq_of_entries_eq hread hread' hindex hindex' (by rfl) (by rfl) hplace hplace'
  exact ⟨_, _, hindex, hindex', hhunk, hcontext⟩

end Triage
