import Triage.Proofs.Diff.Lookup
import Triage.Proofs.Diff.Reading
import Triage.Proofs.Occurrences
import Triage.Proofs.Text.Tidy

/-!
# The index of a rendered diff

A diff that is rendered and indexed comes back: its files in order, each under its path, with every
hunk and every entry, numbered as its header says (`ofPatch_renderDiff`). What the entries say does
not matter. The only diffs that do not come back are those beyond a limit: a number that is too long
to be read, or a line that has no bytes to be hashed (`ofPatch_of_not_isWithinLimits`).
-/

namespace Triage

open Diff

variable {files : List FileDiff}

/-- Whether every number in a diff can be read and every line of it can be hashed. -/
def IsWithinLimits (files : List FileDiff) : Prop :=
  ∀ f ∈ files, ∀ h ∈ f.hunks, h.HasShortNumbers ∧ h.isHashable = true

/-- Whether an index has files in order, and the lines of each hunk under consecutive numbers. -/
structure DiffIndex.Restores (index : DiffIndex) (files : List FileDiff) : Prop where
  entries : index.files.entries = files.map fun f => (f.path, f)
  changes : ∀ f ∈ index.files.values, ∀ h ∈ f.hunks, ∀ side,
    h.changes side = ((h.entriesOn side).zipIdx (h.start side)).map Prod.swap
  numbers : ∀ f ∈ index.files.values, ∀ h ∈ f.hunks, ∀ side,
    h.lines side = List.range' (h.start side) (h.entriesOn side).length
  lines : ∀ f ∈ index.files.values, ∀ side n, n ∈ f.lines side ↔ ∃ h ∈ f.hunks, n ∈ h.lines side
  hash : ∀ f ∈ index.files.values, ∀ h ∈ f.hunks, h.hash = Digest.Sha256.hex
    ("\n".intercalate (h.entries.map fun e => Vocabulary.word e.kind ++ ":" ++ e.content))

/-! ### Paths -/

theorem relative_eq_self {path : String} (h : ∀ c ∈ path.toList, Text.isBlank c = false)
    (hroot : Path.dropRoot path.toList = path.toList) : Path.relative path = path := by
  have htrim : Text.trim path.toList = path.toList :=
    Text.trim_eq_self (Text.isSingleLine_of_forall_not_blank h).trimmed
  rw [Path.relative, htrim, hroot, String.ofList_toList]

/-- The side in front of a name is dropped, and the name is left as it is. -/
theorem path_sectionOf {f : FileDiff} (hf : f.IsRenderable) : (sectionOf f).path = f.path := by
  have hlist : ("b/" ++ f.path).toList = 'b' :: '/' :: f.path.toList := String.toList_append
  have hblank : ∀ c ∈ ("b/" ++ f.path).toList, Text.isBlank c = false := by
    rw [hlist, List.forall_mem_cons, List.forall_mem_cons]
    exact ⟨by decide, by decide, hf.unspaced⟩
  have hrelative : Path.relative ("b/" ++ f.path) = "b/" ++ f.path :=
    relative_eq_self hblank (by rw [hlist]; rfl)
  -- The name behind `b/` is never that of no file, whatever the path is.
  have htarget : ¬ ("b/" ++ f.path = "" ∨ "b/" ++ f.path = Path.devNull) := by
    rintro (hempty | hnull)
    · have := congrArg String.toList hempty
      rw [hlist] at this
      exact absurd this (by simp)
    · have := congrArg String.toList hnull
      rw [hlist] at this
      exact absurd (List.cons.inj this).1 (by decide)
  rw [FileSection.path, sectionOf, if_neg htarget, Path.ofDiffName, hrelative, hlist]
  exact String.ofList_toList

/-! ### Indexes -/

theorem entries_ofSections (hf : ∀ f ∈ files, f.IsRenderable)
    (hdistinct : (files.map FileDiff.path).Nodup) :
    (DiffIndex.ofSections (files.map sectionOf)).files.entries =
      files.map fun f => (f.path, f) := by
  have hpairs : (files.map sectionOf).map (fun s => (s.path, FileDiff.mk s.path s.hunks)) =
      files.map fun f => (f.path, f) := by
    rw [List.map_map]
    apply List.map_congr_left
    intro f hmem
    show ((sectionOf f).path, FileDiff.mk (sectionOf f).path f.hunks) = (f.path, f)
    rw [path_sectionOf (hf f hmem)]
  rw [DiffIndex.ofSections, hpairs]
  apply OrderedMap.entries_ofList
  rw [List.map_map]
  exact hdistinct

theorem restores_of_entries {index : DiffIndex}
    (h : index.files.entries = files.map fun f => (f.path, f)) : index.Restores files where
  entries := h
  changes _ _ h _ side := h.changes_eq side
  numbers _ _ h _ side := h.lines_eq side
  lines _ _ _ _ := FileDiff.mem_lines
  hash _ _ _ _ := rfl

theorem isHashable_sections :
    (∀ s ∈ files.map sectionOf, ∀ h ∈ s.hunks, h.isHashable = true) ↔
      ∀ f ∈ files, ∀ h ∈ f.hunks, h.isHashable = true :=
  List.forall_mem_map

theorem ofPatch_of_isWithinLimits (hf : ∀ f ∈ files, f.IsRenderable)
    (hdistinct : (files.map FileDiff.path).Nodup) (h : IsWithinLimits files) :
    ∃ index, DiffIndex.ofPatch (renderDiff files) = .ok index ∧ index.Restores files := by
  have hread := (readPatch_renderDiff hf).1 fun f hmem g hg => (h f hmem g hg).1
  have hhash := isHashable_sections.mpr fun f hmem g hg => (h f hmem g hg).2
  exact ⟨_, ofPatch_eq_ok_iff.mpr ⟨_, hread, hhash, rfl⟩,
    restores_of_entries (entries_ofSections hf hdistinct)⟩

/-- What is beyond the limits is not indexed. -/
theorem ofPatch_of_not_isWithinLimits (hf : ∀ f ∈ files, f.IsRenderable)
    (h : ¬ IsWithinLimits files) :
    ∃ e, DiffIndex.ofPatch (renderDiff files) = .error (.limit e) := by
  by_cases hshort : ∀ f ∈ files, ∀ g ∈ f.hunks, g.HasShortNumbers
  · have hread := (readPatch_renderDiff hf).1 hshort
    have hhash : ¬ ∀ s ∈ files.map sectionOf, ∀ g ∈ s.hunks, g.isHashable = true := by
      intro hall
      rw [isHashable_sections] at hall
      exact h fun f hmem g hg => ⟨hshort f hmem g hg, hall f hmem g hg⟩
    exact ⟨.unencodable, ofPatch_eq_unencodable hread hhash⟩
  · obtain ⟨e, he⟩ := (readPatch_renderDiff hf).2 hshort
    exact ⟨e, ofPatch_eq_error he⟩

/-- Indexing a rendered diff gives it back if it is within the limits, and fails at a limit
otherwise. -/
theorem ofPatch_renderDiff (hf : ∀ f ∈ files, f.IsRenderable)
    (hdistinct : (files.map FileDiff.path).Nodup) :
    (IsWithinLimits files →
      ∃ index, DiffIndex.ofPatch (renderDiff files) = .ok index ∧ index.Restores files) ∧
    (¬ IsWithinLimits files →
      ∃ e, DiffIndex.ofPatch (renderDiff files) = .error (.limit e)) :=
  ⟨ofPatch_of_isWithinLimits hf hdistinct, ofPatch_of_not_isWithinLimits hf⟩

/-- Files whose lines look like headers, one of them with a name that begins like a side. -/
def disguisedFiles : List FileDiff :=
  [⟨"src/a.py",
      [⟨3, 7, [⟨.normal, "@@ -1 +1 @@"⟩, ⟨.del, "-- x"⟩, ⟨.add, "++ y"⟩, ⟨.normal, ""⟩]⟩,
        ⟨20, 24, [⟨.add, "--- a/z.py"⟩]⟩]⟩,
    ⟨"a/b.py", [⟨1, 1, [⟨.del, "diff --git a/x b/x"⟩, ⟨.del, "\\ No newline at end of file"⟩]⟩]⟩]

theorem restores_disguisedFiles :
    ∃ index, DiffIndex.ofPatch (renderDiff disguisedFiles) = .ok index ∧
      index.Restores disguisedFiles := by
  have hshort : ∀ f ∈ disguisedFiles, ∀ h ∈ f.hunks, h.HasShortNumbers := by
    intro f hf h hh side
    cases side with
    | right => revert f h; decide +kernel
    | left => revert f h; decide +kernel
  have hbytes : ∀ f ∈ disguisedFiles, ∀ h ∈ f.hunks, h.isHashable = true := by decide +kernel
  have hrenderable : ∀ f ∈ disguisedFiles, f.IsRenderable := by decide +kernel
  have hlimits := (ofPatch_renderDiff hrenderable (by decide +kernel)).1
  exact hlimits fun f hf h hh => ⟨hshort f hf h hh, hbytes f hf h hh⟩

/-- Whether a file can be written in rows, has a relative name, and has hunks, none of which starts
in front of the first line. -/
structure FileDiff.IsOrdinary (f : FileDiff) : Prop where
  renderable : f.IsRenderable
  named : f.path ≠ ""
  relative : Path.relative f.path = f.path
  hunks : f.hunks ≠ []
  starts : ∀ h ∈ f.hunks, 0 < h.leftStart ∧ 0 < h.rightStart

/-- A file with a line that is added so far down that the number has too many digits. -/
def farDown : FileDiff :=
  ⟨"x.py", [⟨Nat.pow 10 maxIntegerDigits, 1, [⟨.add, "x"⟩]⟩]⟩

/-- A file with a line that is half of a surrogate pair. -/
def halfPair : FileDiff :=
  ⟨"x.py", [⟨1, 1, [⟨.add, String.ofList [Text.ofUnit 0xD800]⟩]⟩]⟩

/-- Neither of them comes back. -/
theorem not_restores_beyond_limits :
    (farDown.IsOrdinary ∧ ¬ ∃ index, DiffIndex.ofPatch (renderDiff [farDown]) = .ok index) ∧
      halfPair.IsOrdinary ∧ ¬ ∃ index, DiffIndex.ofPatch (renderDiff [halfPair]) = .ok index := by
  have hfar : farDown.IsOrdinary :=
    ⟨by decide +kernel, by decide +kernel, by decide +kernel, by decide +kernel, by decide +kernel⟩
  have hhalf : halfPair.IsOrdinary :=
    ⟨by decide +kernel, by decide +kernel, by decide +kernel, by decide +kernel, by decide +kernel⟩
  have hfails : ∀ {f : FileDiff}, f.IsOrdinary → ¬ IsWithinLimits [f] →
      ¬ ∃ index, DiffIndex.ofPatch (renderDiff [f]) = .ok index := by
    rintro f hf hlimits ⟨index, hindex⟩
    obtain ⟨e, he⟩ := ofPatch_of_not_isWithinLimits (by simpa using hf.renderable) hlimits
    rw [hindex] at he
    exact absurd he (by simp)
  refine ⟨⟨hfar, hfails hfar ?_⟩, hhalf, hfails hhalf ?_⟩
  · intro h
    have hshort := ((h farDown (by simp) _ (List.mem_singleton_self _)).1 .left).1
    revert hshort
    decide +kernel
  · intro h
    have hbytes := (h halfPair (by simp) _ (List.mem_singleton_self _)).2
    revert hbytes
    decide +kernel

end Triage
