import Triage.Coverage
import Triage.Proofs.Occurrences

/-!
# When there is a plan

The changed files of a plan are those whose paths are not empty (`contains_ofRecords`). There is a
plan for them iff the reason of every planned file can be written (`exists_coveragePlan_iff`).
-/

namespace Triage

variable {files : List ChangedFile} {findings : List Finding}

/-! ### Changed files -/

theorem mem_changedPaths {path : String} :
    path ∈ changedPaths files ↔ path ≠ "" ∧ ∃ file ∈ files, Path.relative file.path = path := by
  simp [changedPaths, and_comm]

theorem contains_record (changed : ChangedFiles) (file : ChangedFile) (path : String) :
    (changed.record file).contains path = true ↔
      changed.contains path = true ∨
        (Path.relative file.path ≠ "" ∧ path = Path.relative file.path) := by
  unfold ChangedFiles.record
  dsimp only
  split_ifs with hempty
  · simp [hempty]
  · rw [OrderedMap.contains, OrderedMap.get?_insert]
    split_ifs with hpath
    · simp [hpath, hempty]
    · simp [hpath, OrderedMap.contains]

theorem contains_foldl_record (files : List ChangedFile) (changed : ChangedFiles) (path : String) :
    (files.foldl ChangedFiles.record changed).contains path = true ↔
      changed.contains path = true ∨ path ∈ changedPaths files := by
  induction files generalizing changed with
  | nil => simp [changedPaths]
  | cons file rest ih =>
    rw [List.foldl_cons, ih, contains_record, or_assoc]
    apply or_congr_right
    rw [mem_changedPaths, mem_changedPaths]
    constructor
    · rintro (⟨hne, rfl⟩ | ⟨hne, other, hother, hpath⟩)
      · exact ⟨hne, file, List.mem_cons_self .., rfl⟩
      · exact ⟨hne, other, List.mem_cons_of_mem _ hother, hpath⟩
    · rintro ⟨hne, other, hother, rfl⟩
      rcases List.mem_cons.mp hother with rfl | hother
      · exact Or.inl ⟨hne, rfl⟩
      · exact Or.inr ⟨hne, other, hother, rfl⟩

theorem contains_ofRecords (files : List ChangedFile) (path : String) :
    (ChangedFiles.ofRecords files).contains path = true ↔ path ∈ changedPaths files := by
  rw [ChangedFiles.ofRecords, contains_foldl_record]
  simp [OrderedMap.contains]

/-! ### Plans -/

/-- The files that become targets of a plan. -/
abbrev plannedFiles (files : List ChangedFile) (findings : List Finding) (maxTargets : Int) :
    List ChangedFile :=
  targetFiles maxTargets
    (uncoveredFiles (.ofRecords files) (coveredPaths (.ofRecords files) findings))

theorem coveragePlan_of_isEmpty (h : (ChangedFiles.ofRecords files).entries.isEmpty = true)
    (findings : List Finding) (maxTargets : Int) :
    coveragePlan files findings maxTargets = .ok .empty := by
  unfold coveragePlan
  dsimp only
  rw [if_pos h]

/-- A plan for changed files exists if the reason of every target can be written. -/
theorem coveragePlan_eq_ok_iff (h : (ChangedFiles.ofRecords files).entries.isEmpty = false)
    {maxTargets : Int} {p : CoveragePlan} :
    let changed := ChangedFiles.ofRecords files
    let looks := coveredPaths changed findings
    let targets := targetFiles maxTargets (uncoveredFiles changed looks)
    coveragePlan files findings maxTargets = .ok p ↔
      (∀ f ∈ targets, f.hasReason = true) ∧ p = .ofTargets changed looks targets := by
  intro changed looks targets
  unfold coveragePlan
  dsimp only
  rw [if_neg (by rw [h]; exact Bool.false_ne_true), ← List.all_eq_true]
  split_ifs with hreasons
  · rw [Except.ok.injEq, eq_comm, and_iff_right hreasons]
  · constructor
    · intro herror
      exact absurd herror (by simp)
    · rintro ⟨hall, -⟩
      exact absurd hall hreasons

theorem targetFiles_subset (maxTargets : Int) (changed : ChangedFiles) (looks : List String) :
    targetFiles maxTargets (uncoveredFiles changed looks) ⊆ changed.values := by
  intro f hf
  have hsorted := List.mem_of_mem_take hf
  rw [List.mem_mergeSort] at hsorted
  exact List.mem_of_mem_filter hsorted

/-- There is a plan iff the reason of every planned file can be written. -/
theorem exists_coveragePlan_iff {maxTargets : Int} :
    (∃ p, coveragePlan files findings maxTargets = .ok p) ↔
      ∀ f ∈ plannedFiles files findings maxTargets, f.hasReason = true := by
  cases hempty : (ChangedFiles.ofRecords files).entries.isEmpty with
  | true =>
    have hvalues : (ChangedFiles.ofRecords files).values = [] := by
      rw [OrderedMap.values, List.isEmpty_iff.mp hempty, List.map_nil]
    constructor
    · rintro - f hf
      have hmem := targetFiles_subset _ _ _ hf
      rw [hvalues] at hmem
      exact absurd hmem List.not_mem_nil
    · exact fun _ => ⟨_, coveragePlan_of_isEmpty hempty findings maxTargets⟩
  | false =>
    simp only [coveragePlan_eq_ok_iff hempty, exists_and_left, exists_eq, and_true]

/-- Otherwise the plan fails. -/
theorem exists_coveragePlan_error_iff {maxTargets : Int} :
    (∃ e, coveragePlan files findings maxTargets = .error e) ↔
      ∃ f ∈ plannedFiles files findings maxTargets, f.hasReason = false := by
  have hfails : (∃ e, coveragePlan files findings maxTargets = .error e) ↔
      ¬ ∃ p, coveragePlan files findings maxTargets = .ok p := by
    cases coveragePlan files findings maxTargets with
    | ok p => simp
    | error e => simp
  rw [hfails, exists_coveragePlan_iff]
  simp

end Triage
