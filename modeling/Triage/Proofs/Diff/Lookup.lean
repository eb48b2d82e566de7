import Triage.Proofs.Diff.Numbering
import Triage.Proofs.Occurrences
import Triage.Proofs.OrderedMap

/-!
# What a look-up in an index finds

Sections are kept by path, and of two sections with one path the later one counts; a look-up makes
the path that it is asked for relative once more. So the line of a section is found under the
section's own path iff the last section on the relative form of that path has the line
(`hasLine_section_iff`): always if the path is relative already and no later section has it.
-/

namespace Triage

open Diff

variable {text : String} {sections before after : List FileSection} {s : FileSection}
  {index : DiffIndex}

/-- The last section with a path. -/
def lastSection? (sections : List FileSection) (path : String) : Option FileSection :=
  sections.reverse.find? (·.path = path)

theorem lastSection?_append_cons (hafter : ∀ t ∈ after, t.path ≠ s.path) :
    lastSection? (before ++ s :: after) s.path = some s := by
  have hnone : after.reverse.find? (·.path = s.path) = none := by
    rw [List.find?_eq_none]
    intro t ht
    simpa using hafter t (List.mem_reverse.mp ht)
  rw [lastSection?, List.reverse_append, List.reverse_cons, List.append_assoc, List.find?_append,
    hnone, Option.none_or, List.singleton_append, List.find?_cons_of_pos (by simp)]

/-! ### Indexes of patches -/

theorem ofPatch_eq_ok_iff :
    DiffIndex.ofPatch text = .ok index ↔
      ∃ sections, Diff.readPatch text = .ok sections ∧
        (∀ s ∈ sections, ∀ h ∈ s.hunks, h.isHashable = true) ∧ index = .ofSections sections := by
  unfold DiffIndex.ofPatch
  cases hread : Diff.readPatch text with
  | error e => simp [bind, Except.bind]
  | ok sections =>
    simp only [bind, Except.bind, Except.ok.injEq, exists_eq_left', ← List.all_eq_true]
    split_ifs with hbytes
    · show Except.ok (DiffIndex.ofSections sections) = .ok index ↔ _
      rw [Except.ok.injEq, and_iff_right hbytes, eq_comm]
    · exact iff_of_false id fun hindex => hbytes hindex.1

theorem ofPatch_eq_error {e : PatchError} (h : Diff.readPatch text = .error e) :
    DiffIndex.ofPatch text = .error e := by
  rw [DiffIndex.ofPatch, h]
  rfl

theorem ofPatch_eq_unencodable (h : Diff.readPatch text = .ok sections)
    (hbytes : ¬ ∀ s ∈ sections, ∀ g ∈ s.hunks, g.isHashable = true) :
    DiffIndex.ofPatch text = .error (.limit .unencodable) := by
  have hall : ¬ sections.all (fun s => s.hunks.all (·.isHashable)) = true := by
    simpa only [List.all_eq_true] using hbytes
  rw [DiffIndex.ofPatch, h]
  exact if_neg hall

theorem file?_ofSections (sections : List FileSection) (path : String) :
    (DiffIndex.ofSections sections).file? path =
      (lastSection? sections (Path.relative path)).map fun s => ⟨s.path, s.hunks⟩ := by
  rw [DiffIndex.file?, DiffIndex.ofSections, OrderedMap.get?_ofList, ← List.map_reverse,
    List.find?_map, Option.map_map, lastSection?]
  simp only [Function.comp_def]

theorem hasLine_ofSections (sections : List FileSection) (a : Anchor) :
    (DiffIndex.ofSections sections).hasLine a = true ↔
      ∃ s, lastSection? sections (Path.relative a.path) = some s ∧
        ∃ h ∈ s.hunks, h.hasLine a.side a.line = true := by
  rw [DiffIndex.hasLine, file?_ofSections]
  cases lastSection? sections (Path.relative a.path) with
  | none => simp
  | some s => simp

/-! ### The lines of a file -/

theorem FileDiff.mem_lines {f : FileDiff} {side : Side} {n : ℕ} :
    n ∈ f.lines side ↔ ∃ h ∈ f.hunks, n ∈ h.lines side := by
  rw [FileDiff.lines, mem_eraseReps, List.mem_mergeSort, List.mem_flatMap]

/-! ### The lines of a section -/

/-- Whether every line of a section is found under the section's own path, on each side on which it
exists. -/
def DiffIndex.FindsLines (index : DiffIndex) (s : FileSection) : Prop :=
  ∀ h ∈ s.hunks, ∀ side, ∀ n ∈ h.lines side, index.hasLine ⟨s.path, side, n⟩ = true

/-- A line of a section is found iff the last section on its path has it. So all lines of a section
are found if its path is relative and no later section has it. -/
theorem hasLine_section_iff (hread : Diff.readPatch text = .ok sections)
    (hindex : DiffIndex.ofPatch text = .ok index) (hs : sections = before ++ s :: after) :
    (∀ h ∈ s.hunks, ∀ side, ∀ n ∈ h.lines side,
      (index.hasLine ⟨s.path, side, n⟩ = true ↔
        ∃ t, lastSection? sections (Path.relative s.path) = some t ∧
          ∃ g ∈ t.hunks, n ∈ g.lines side)) ∧
    (Path.relative s.path = s.path → (∀ t ∈ after, t.path ≠ s.path) → index.FindsLines s) := by
  obtain ⟨sections', hread', -, rfl⟩ := ofPatch_eq_ok_iff.mp hindex
  obtain rfl := Except.ok.inj (hread.symm.trans hread')
  have hfound : ∀ side (n : ℕ), (DiffIndex.ofSections sections).hasLine ⟨s.path, side, n⟩ = true ↔
      ∃ t, lastSection? sections (Path.relative s.path) = some t ∧
        ∃ g ∈ t.hunks, n ∈ g.lines side := by
    intro side n
    simp only [hasLine_ofSections, Hunk.hasLine_iff, Int.natCast_inj, exists_eq_right]
  refine ⟨fun h _ side n _ => hfound side n, ?_⟩
  intro hrelative hlast h hh side n hn
  rw [hfound, hrelative, hs, lastSection?_append_cons hlast]
  exact ⟨s, rfl, h, hh, hn⟩

/-- A patch with two sections on one file. -/
def twiceOnFile : String :=
  "--- a/x.py\n+++ b/x.py\n@@ -1 +1 @@\n-one\n+two\n" ++
    "--- a/x.py\n+++ b/x.py\n@@ -9 +9 @@\n-three\n+four\n"

def onFirstLine : FileSection :=
  ⟨"a/x.py", "b/x.py", [⟨1, 1, [⟨.del, "one"⟩, ⟨.add, "two"⟩]⟩]⟩

def onNinthLine : FileSection :=
  ⟨"a/x.py", "b/x.py", [⟨9, 9, [⟨.del, "three"⟩, ⟨.add, "four"⟩]⟩]⟩

theorem readPatch_twiceOnFile : Diff.readPatch twiceOnFile = .ok [onFirstLine, onNinthLine] := by
  decide +kernel

/-- The later section on the file is found. -/
theorem findsLines_onNinthLine :
    ∃ index, DiffIndex.ofPatch twiceOnFile = .ok index ∧ index.FindsLines onNinthLine := by
  have hindex : DiffIndex.ofPatch twiceOnFile = .ok (.ofSections [onFirstLine, onNinthLine]) :=
    ofPatch_eq_ok_iff.mpr ⟨_, readPatch_twiceOnFile, by decide +kernel, rfl⟩
  have hsections : [onFirstLine, onNinthLine] = [onFirstLine] ++ onNinthLine :: [] := rfl
  have hlines := hasLine_section_iff readPatch_twiceOnFile hindex hsections
  exact ⟨_, hindex, hlines.2 (by decide +kernel) (by simp)⟩

/-- A patch whose only file is named with a dot behind the side. -/
def dottedName : String :=
  "--- a/./x.py\n+++ b/./x.py\n@@ -1 +1 @@\n-one\n+two\n"

def onDottedName : FileSection :=
  { onFirstLine with source := "a/./x.py", target := "b/./x.py" }

theorem exists_not_findsLines {h : Hunk} {side : Side} {n : ℕ}
    (hread : Diff.readPatch text = .ok sections)
    (hbytes : ∀ s ∈ sections, ∀ h ∈ s.hunks, h.isHashable = true) (hs : s ∈ sections)
    (hh : h ∈ s.hunks) (hn : n ∈ h.lines side)
    (hmissed : (DiffIndex.ofSections sections).hasLine ⟨s.path, side, n⟩ = false) :
    ∃ sections index, Diff.readPatch text = .ok sections ∧ DiffIndex.ofPatch text = .ok index ∧
      ∃ s ∈ sections, ¬ index.FindsLines s := by
  refine ⟨_, _, hread, ofPatch_eq_ok_iff.mpr ⟨_, hread, hbytes, rfl⟩, s, hs, ?_⟩
  intro hfinds
  have hfound := hfinds h hh side n hn
  rw [hmissed] at hfound
  exact Bool.false_ne_true hfound

/-- An earlier section on a file is hidden by the later one, and a section on a path that is not
relative is not found at all. -/
theorem not_findsLines :
    (∃ sections index, Diff.readPatch twiceOnFile = .ok sections ∧
      DiffIndex.ofPatch twiceOnFile = .ok index ∧ ∃ s ∈ sections, ¬ index.FindsLines s) ∧
    ∃ sections index, Diff.readPatch dottedName = .ok sections ∧
      DiffIndex.ofPatch dottedName = .ok index ∧ ∃ s ∈ sections, ¬ index.FindsLines s := by
  have hdotted : Diff.readPatch dottedName = .ok [onDottedName] := by decide +kernel
  have hline : 1 ∈ (Hunk.mk 1 1 [⟨.del, "one"⟩, ⟨.add, "two"⟩]).lines .right := by decide
  constructor
  · exact exists_not_findsLines readPatch_twiceOnFile (by decide +kernel) (List.mem_cons_self ..)
      (List.mem_singleton_self _) hline (by decide +kernel)
  · exact exists_not_findsLines hdotted (by decide +kernel) (List.mem_singleton_self onDottedName)
      (List.mem_singleton_self _) hline (by decide +kernel)

end Triage
