import Triage.Proofs.Diff.Agreement
import Mathlib.Data.Int.Notation

/-!
# The window of a context

A context is cut out of the entries of a hunk by their places in it. As the entries of a side are
numbered one after another, it is also told by their numbers: it has those at most three lines from
the line that it is about (`Hunk.context_eq_near`), and so the context hash of a place is the hash
of them, in the order of their numbers (`contextHash_eq_near`). Where the hunk begins or ends within
three lines, there are fewer of them.
-/

namespace Triage

open Diff

/-! ### Numbered lists -/

section Numbered

variable {α : Type} (l : List α) (start n : ℕ)

/-- The items numbered below a bound are those in front. -/
theorem filter_lt_zipIdx :
    (l.zipIdx start).filter (fun p => p.2 < start + n) = (l.take n).zipIdx start := by
  induction l generalizing start n with
  | nil => simp
  | cons a l ih =>
    cases n with
    | zero =>
      rw [List.take_zero, List.zipIdx_nil, List.filter_eq_nil_iff]
      intro p hp
      simpa using List.le_snd_of_mem_zipIdx hp
    | succ n =>
      have hbound : start + (n + 1) = start + 1 + n := by omega
      rw [List.zipIdx_cons, List.filter_cons_of_pos (by simp), hbound, ih, List.take_succ_cons,
        List.zipIdx_cons]

/-- The items numbered from a bound on are those behind. -/
theorem filter_le_zipIdx :
    (l.zipIdx start).filter (fun p => start + n ≤ p.2) = (l.drop n).zipIdx (start + n) := by
  induction l generalizing start n with
  | nil => simp
  | cons a l ih =>
    cases n with
    | zero =>
      rw [List.drop_zero, Nat.add_zero, List.filter_eq_self]
      intro p hp
      simpa using List.le_snd_of_mem_zipIdx hp
    | succ n =>
      have hbound : start + (n + 1) = start + 1 + n := by omega
      rw [List.zipIdx_cons, List.filter_cons_of_neg (by simp), hbound, ih, List.drop_succ_cons]

end Numbered

/-! ### Contexts -/

namespace Hunk

variable {h : Hunk} {side : Side} {line : ℤ}

/-- The entries of a side that are at most three lines from a line. -/
def near (h : Hunk) (side : Side) (line : ℤ) : List Entry :=
  ((h.changes side).filter fun c => ((c.1 : ℤ) - line).natAbs ≤ 3).map Prod.snd

/-- What stands around the entry at a place is what is numbered at most three away from it. -/
theorem around_eq_filter (entries : List Entry) (start k : ℕ) :
    around entries k =
      ((entries.zipIdx start).filter
        fun p => ((p.2 : ℤ) - (start + k : ℕ)).natAbs ≤ 3).map Prod.fst := by
  have hfilter : (entries.zipIdx start).filter
        (fun p => ((p.2 : ℤ) - (start + k : ℕ)).natAbs ≤ 3) =
      ((entries.zipIdx start).filter fun p => start + (k - contextRadius) ≤ p.2).filter
        fun p => p.2 < start + (k - contextRadius) + (min k contextRadius + contextRadius + 1) := by
    rw [List.filter_filter]
    apply List.filter_congr
    intro p hp
    -- No number is below the first one, so that nothing is missed where the window is cut off.
    have hfirst : start ≤ p.2 := List.le_snd_of_mem_zipIdx hp
    rw [← Bool.decide_and, decide_eq_decide]
    unfold contextRadius
    omega
  rw [hfilter, filter_le_zipIdx, filter_lt_zipIdx, List.zipIdx_map_fst]
  rfl

/-- The context of a line of a hunk is what is at most three lines from it on its side. -/
theorem context_eq_near (hline : h.hasLine side line = true) :
    h.context side line = h.near side line := by
  obtain ⟨n, hn, rfl⟩ := hasLine_iff.mp hline
  rw [lines_eq, List.mem_range'_1] at hn
  obtain ⟨k, rfl⟩ := Nat.exists_eq_add_of_le hn.1
  have hinside : k < (h.entriesOn side).length := by omega
  rw [context_eq hinside, around_eq_filter _ (h.start side), near, changes_eq, List.filter_map,
    List.map_map]
  rfl

/-- The entries of a side come in the order of their numbers. -/
theorem pairwise_changes (h : Hunk) (side : Side) :
    (h.changes side).Pairwise fun c d => c.1 < d.1 := by
  rw [← List.pairwise_map (f := Prod.fst)]
  show (h.lines side).Pairwise (· < ·)
  rw [lines_eq]
  exact List.pairwise_lt_range'

end Hunk

/-! ### Context hashes -/

variable {text : String} {sections : List FileSection} {index : DiffIndex} {a : Anchor} {h : Hunk}

/-- Whether a hunk is the first one of the file at a place that has the line of the place. -/
structure IsFirstAt (sections : List FileSection) (a : Anchor) (h : Hunk) : Prop where
  line : h.hasLine a.side a.line = true
  first : ∃ s before after, lastSection? sections (Path.relative a.path) = some s ∧
    s.hunks = before ++ h :: after ∧ ∀ g ∈ before, g.hasLine a.side a.line = false

theorem isFirstAt_of_hunkAt? (h_at : (DiffIndex.ofSections sections).hunkAt? a = some h) :
    IsFirstAt sections a h := by
  refine ⟨DiffIndex.hasLine_of_hunkAt? h_at, ?_⟩
  rw [DiffIndex.hunkAt?, file?_ofSections, Option.bind_map] at h_at
  obtain ⟨s, hs, hfind⟩ := Option.bind_eq_some_iff.mp h_at
  obtain ⟨-, before, after, hhunks, hbefore⟩ := List.find?_eq_some_iff_append.mp hfind
  exact ⟨s, before, after, hs, hhunks, fun g hg => by simpa using hbefore g hg⟩

/-- The context hash of a place in a patch is the hash of what is at most three lines from it on its
side, in the order of the lines, in the first hunk of the file that has the line. -/
theorem contextHash_eq_near (hindex : DiffIndex.ofPatch text = .ok index)
    (hline : index.hasLine a = true) :
    ∃ sections h, Diff.readPatch text = .ok sections ∧ IsFirstAt sections a h ∧
      ((h.changes a.side).Pairwise fun c d => c.1 < d.1) ∧
      index.contextHash a = signatureHash (h.near a.side a.line) := by
  obtain ⟨sections, hread, -, rfl⟩ := ofPatch_eq_ok_iff.mp hindex
  obtain ⟨h, h_at⟩ := DiffIndex.hasLine_iff_hunkAt?.mp hline
  refine ⟨sections, h, hread, isFirstAt_of_hunkAt? h_at, h.pairwise_changes a.side, ?_⟩
  rw [DiffIndex.contextHash, h_at, ← Hunk.context_eq_near (DiffIndex.hasLine_of_hunkAt? h_at)]
  rfl

/-- A patch with a hunk of two lines and a hunk of eight. -/
def longerHunkPatch : String :=
  "--- a/y.py\n+++ b/y.py\n@@ -1 +1 @@\n-old\n+new\n" ++
    "@@ -10,6 +10,7 @@\n one\n-two\n+ten\n three\n four\n+five\n six\n seven\n"

def shorterHunk : Hunk :=
  ⟨1, 1, [⟨.del, "old"⟩, ⟨.add, "new"⟩]⟩

def longerHunk : Hunk :=
  ⟨10, 10, [⟨.normal, "one"⟩, ⟨.del, "two"⟩, ⟨.add, "ten"⟩, ⟨.normal, "three"⟩, ⟨.normal, "four"⟩,
    ⟨.add, "five"⟩, ⟨.normal, "six"⟩, ⟨.normal, "seven"⟩]⟩

/-- Of the line before the last one, the context is three lines in front of it, itself, and one
line behind it. -/
theorem contextHash_eq_near_lastButOne :
    ∃ index, DiffIndex.ofPatch longerHunkPatch = .ok index ∧
      index.hasLine ⟨"y.py", .right, 15⟩ = true ∧
      index.contextHash ⟨"y.py", .right, 15⟩ = signatureHash [⟨.normal, "three"⟩,
        ⟨.normal, "four"⟩, ⟨.add, "five"⟩, ⟨.normal, "six"⟩, ⟨.normal, "seven"⟩] := by
  have hread : Diff.readPatch longerHunkPatch =
      .ok [⟨"a/y.py", "b/y.py", [shorterHunk, longerHunk]⟩] := by decide +kernel
  have hindex := ofPatch_eq_ok_iff.mpr ⟨_, hread, by decide +kernel, rfl⟩
  refine ⟨_, hindex, by decide +kernel, ?_⟩
  obtain ⟨sections, h, hsections, ⟨hline, s, before, after, hs, hhunks, -⟩, -, hhash⟩ :=
    contextHash_eq_near (a := ⟨"y.py", .right, 15⟩) hindex (by decide +kernel)
  obtain rfl := Except.ok.inj (hread.symm.trans hsections)
  have hlast : lastSection? [⟨"a/y.py", "b/y.py", [shorterHunk, longerHunk]⟩]
      (Path.relative "y.py") = some ⟨"a/y.py", "b/y.py", [shorterHunk, longerHunk]⟩ := by
    decide +kernel
  obtain rfl := Option.some.inj (hlast.symm.trans hs)
  have hmem : h ∈ [shorterHunk, longerHunk] := by
    rw [show [shorterHunk, longerHunk] = before ++ h :: after from hhunks]
    exact List.mem_append_right _ (List.mem_cons_self ..)
  -- The shorter hunk does not have the line.
  rcases List.mem_cons.mp hmem with rfl | hmem
  · exact absurd hline (by decide)
  · obtain rfl := List.mem_singleton.mp hmem
    exact hhash

end Triage
