import Triage.Proofs.Coverage.Merging
import Triage.Proofs.Finding.Numbering
import Triage.Proofs.Refinement.Reordering
import Mathlib.Data.Finset.Card
import Mathlib.Data.Finset.Dedup
import Mathlib.Data.List.Perm.Lattice

/-!
# The most urgent files

The urgency of a file is one number, but as no count is negative it orders files by risk, then by
churn up to 99 lines; with the path behind it, that is the linear order of `ChangedFile.place`
(`isBefore_iff`). The targets of a plan are the first uncovered files in this order
(`areMostUrgent_plannedFiles`), so neither the order of the findings nor that of records of distinct
paths matters (`coverage_targets_iff`).
-/

namespace Triage

variable {files files' : List ChangedFile} {findings findings' : List Finding} {maxTargets : Int}

/-! ### The order of urgency -/

namespace ChangedFile

variable {a b c : ChangedFile}

/-- The place of a file among the targets: the highest risk first, then the highest churn up to 99
lines, then the first path. -/
def place (f : ChangedFile) : ℕᵒᵈ ×ₗ ℤᵒᵈ ×ₗ String :=
  toLex (OrderDual.toDual f.tier.rank, toLex (OrderDual.toDual (min 99 f.churn), f.path))

/-- A churn of at most 99 lines never outweighs a risk. -/
theorem urgency_lt_iff (ha : 0 ≤ a.churn) (hb : 0 ≤ b.churn) :
    a.urgency < b.urgency ↔ a.tier.rank < b.tier.rank ∨
      a.tier.rank = b.tier.rank ∧ min 99 a.churn < min 99 b.churn := by
  unfold urgency
  omega

theorem isBefore_iff (ha : 0 ≤ a.churn) (hb : 0 ≤ b.churn) :
    a.isBefore b = true ↔ a.place ≤ b.place := by
  have hab := urgency_lt_iff ha hb
  have hba := urgency_lt_iff hb ha
  unfold isBefore place
  rw [Prod.Lex.toLex_le_toLex, Prod.Lex.toLex_le_toLex]
  simp only [OrderDual.toDual_lt_toDual, OrderDual.toDual_inj]
  split_ifs with hfirst hsecond
  · rw [hba] at hfirst
    simp only [true_iff]
    omega
  · rw [hab] at hsecond
    simp only [false_iff]
    omega
  · have hrank : a.tier.rank = b.tier.rank := by omega
    have hchurn : min 99 a.churn = min 99 b.churn := by omega
    simp [hrank, hchurn]

end ChangedFile

/-! ### Sorting -/

/-- The uncovered files, the most urgent first. -/
def sortedFiles (files : List ChangedFile) (findings : List Finding) : List ChangedFile :=
  ((uncoveredPaths files findings).map (merged files)).mergeSort ChangedFile.isBefore

theorem plannedFiles_eq (files : List ChangedFile) (findings : List Finding) (maxTargets : Int) :
    plannedFiles files findings maxTargets =
      (sortedFiles files findings).take (targetLimit maxTargets) := by
  rw [plannedFiles, uncoveredFiles_ofRecords]
  rfl

theorem sortedFiles_perm (files : List ChangedFile) (findings : List Finding) :
    (sortedFiles files findings).Perm ((uncoveredPaths files findings).map (merged files)) :=
  List.mergeSort_perm ..

theorem nodup_uncoveredPaths (files : List ChangedFile) (findings : List Finding) :
    (uncoveredPaths files findings).Nodup :=
  (nodup_eraseDups _).filter _

theorem map_path_sortedFiles_perm (files : List ChangedFile) (findings : List Finding) :
    ((sortedFiles files findings).map ChangedFile.path).Perm (uncoveredPaths files findings) := by
  have hperm := (sortedFiles_perm files findings).map ChangedFile.path
  rw [List.map_map] at hperm
  rwa [show ChangedFile.path ∘ merged files = id from rfl, List.map_id] at hperm

/-- The sorted files stand strictly in order. -/
theorem pairwise_sortedFiles (h : ∀ f ∈ files, f.IsCounted) (findings : List Finding) :
    (sortedFiles files findings).Pairwise fun a b => a.place < b.place := by
  have hcounted : ∀ f ∈ (uncoveredPaths files findings).map (merged files), 0 ≤ f.churn := by
    intro f hf
    obtain ⟨path, -, rfl⟩ := List.mem_map.mp hf
    exact (isCounted_merged h path).churn_nonneg
  have hsorted : (sortedFiles files findings).Pairwise fun a b => a.isBefore b = true := by
    refine pairwise_mergeSort_of_forall (p := fun f => 0 ≤ f.churn) ?_ ?_ hcounted
    · intro a b c ha hb hc hab hbc
      rw [ChangedFile.isBefore_iff ha hb] at hab
      rw [ChangedFile.isBefore_iff hb hc] at hbc
      rw [ChangedFile.isBefore_iff ha hc]
      exact hab.trans hbc
    · intro a b ha hb
      rw [Bool.or_eq_true, ChangedFile.isBefore_iff ha hb, ChangedFile.isBefore_iff hb ha]
      exact le_total _ _
  have hdistinct : (sortedFiles files findings).Pairwise fun a b => a.path ≠ b.path := by
    rw [← List.pairwise_map]
    exact (map_path_sortedFiles_perm files findings).nodup_iff.mpr (nodup_uncoveredPaths ..)
  refine (hsorted.and hdistinct).imp_of_mem ?_
  rintro a b ha hb ⟨hbefore, hpath⟩
  rw [(sortedFiles_perm files findings).mem_iff] at ha hb
  rw [ChangedFile.isBefore_iff (hcounted a ha) (hcounted b hb)] at hbefore
  refine lt_of_le_of_ne hbefore ?_
  -- Files with one place have one path.
  intro hplace
  exact hpath (congrArg (fun place => (ofLex (ofLex place).2).2) hplace)

/-! ### Targets -/

/-- Whether paths are the most urgent ones among those that are changed and not covered: so many of
them as a plan may have, in order, and none left out that would come before one of them. -/
structure AreMostUrgent (files : List ChangedFile) (findings : List Finding) (maxTargets : Int)
    (paths : List String) : Prop where
  distinct : paths.Nodup
  uncovered : ∀ path ∈ paths, path ∈ uncoveredPaths files findings
  length : (paths.length : ℤ) =
    min (max 2 (min 16 maxTargets)) (uncoveredPaths files findings).length
  ordered : paths.Pairwise fun a b => (merged files a).place < (merged files b).place
  urgent : ∀ a ∈ uncoveredPaths files findings, a ∉ paths →
    ∀ b ∈ paths, (merged files b).place < (merged files a).place

theorem merged_path_of_mem_sortedFiles {f : ChangedFile} (h : f ∈ sortedFiles files findings) :
    merged files f.path = f := by
  rw [(sortedFiles_perm files findings).mem_iff, List.mem_map] at h
  obtain ⟨path, -, rfl⟩ := h
  rfl

theorem areMostUrgent_plannedFiles (h : ∀ f ∈ files, f.IsCounted) (findings : List Finding)
    (maxTargets : Int) :
    AreMostUrgent files findings maxTargets
      ((plannedFiles files findings maxTargets).map ChangedFile.path) := by
  have hpaths := map_path_sortedFiles_perm files findings
  have hsorted := pairwise_sortedFiles h findings
  rw [plannedFiles_eq]
  set n := targetLimit maxTargets with hn
  have htaken : ∀ f ∈ (sortedFiles files findings).take n, merged files f.path = f :=
    fun f hf => merged_path_of_mem_sortedFiles (List.mem_of_mem_take hf)
  constructor
  · rw [List.map_take]
    exact ((hpaths.nodup_iff).mpr (nodup_uncoveredPaths ..)).sublist (List.take_sublist ..)
  · intro path hpath
    rw [List.map_take] at hpath
    exact hpaths.mem_iff.mp (List.mem_of_mem_take hpath)
  · have hlen := hpaths.length_eq
    rw [List.length_map] at hlen
    rw [List.length_map, List.length_take, hlen, hn, targetLimit]
    omega
  · rw [List.pairwise_map]
    refine (hsorted.sublist (List.take_sublist ..)).imp_of_mem ?_
    intro a b ha hb hlt
    rwa [htaken a ha, htaken b hb]
  · intro a ha hleft b hb
    obtain ⟨f, hf, rfl⟩ := List.mem_map.mp hb
    obtain ⟨g, hg, rfl⟩ := List.mem_map.mp (hpaths.mem_iff.mpr ha)
    -- What is left out stands behind the files that were taken.
    have hdropped : g ∈ (sortedFiles files findings).drop n := by
      rw [← List.take_append_drop n (sortedFiles files findings), List.mem_append] at hg
      exact hg.resolve_left fun htake => hleft (List.mem_map_of_mem htake)
    rw [← List.take_append_drop n (sortedFiles files findings), List.pairwise_append] at hsorted
    rw [htaken f hf, merged_path_of_mem_sortedFiles (List.mem_of_mem_drop hdropped)]
    exact hsorted.2.2 f hf g hdropped

/-! ### Reordering -/

theorem card_toFinset_eq_length_eraseDups (l : List String) :
    l.toFinset.card = l.eraseDups.length := by
  rw [← List.toFinset_card_of_nodup (nodup_eraseDups l)]
  congr 1
  ext a
  simp

/-- A plan depends on the looks by the uncovered files, the number of looks, and the number of paths
that they are at. -/
theorem coveragePlan_congr
    (huncovered : uncoveredPaths files findings' = uncoveredPaths files findings)
    (hlooks : (coveredPaths (.ofRecords files) findings').Perm
      (coveredPaths (.ofRecords files) findings)) :
    coveragePlan files findings' maxTargets = coveragePlan files findings maxTargets := by
  have hfiles : uncoveredFiles (.ofRecords files) (coveredPaths (.ofRecords files) findings') =
      uncoveredFiles (.ofRecords files) (coveredPaths (.ofRecords files) findings) := by
    rw [uncoveredFiles_ofRecords, uncoveredFiles_ofRecords, huncovered]
  have hcovered : (coveredPaths (.ofRecords files) findings').eraseDups.length =
      (coveredPaths (.ofRecords files) findings).eraseDups.length := by
    rw [← card_toFinset_eq_length_eraseDups, ← card_toFinset_eq_length_eraseDups,
      List.toFinset_eq_of_perm _ _ hlooks]
  unfold coveragePlan CoveragePlan.ofTargets
  simp only [hfiles, hcovered, hlooks.length_eq]

/-- The order of the findings does not matter. -/
theorem coveragePlan_eq_of_perm (h : findings.Perm findings') :
    coveragePlan files findings' maxTargets = coveragePlan files findings maxTargets := by
  have hcovered : isCovered findings' = isCovered findings := by
    funext path
    exact h.symm.any_eq
  apply coveragePlan_congr
  · rw [uncoveredPaths, uncoveredPaths, hcovered]
  · exact ((h.symm.filter _).map _).filter _

/-- Two lists of at most one item are equal if one is the other one reordered. -/
theorem eq_of_perm_of_length_le_one {α : Type} {l l' : List α} (h : l.Perm l')
    (hlen : l.length ≤ 1) : l = l' := by
  match l, hlen with
  | [], _ => exact h.nil_eq
  | [a], _ => exact (List.perm_singleton.mp h.symm).symm

/-- If no path comes twice, each one has a single record, whatever the order of the records. -/
theorem merged_eq_of_perm (h : files.Perm files') (hdistinct : (changedPaths files).Nodup)
    {path : String} (hpath : path ≠ "") : merged files' path = merged files path := by
  have hrecords : recordsOn path files = recordsOn path files' := by
    refine eq_of_perm_of_length_le_one (h.filter _) ?_
    have hcount : (recordsOn path files).length = (changedPaths files).count path := by
      rw [changedPaths, List.count_filter (by simpa using hpath), List.count_eq_countP,
        List.countP_map, recordsOn, ← List.countP_eq_length_filter]
      apply List.countP_congr
      intro file _
      simp
    rw [hcount]
    exact List.nodup_iff_count_le_one.mp hdistinct path
  unfold merged
  rw [hrecords]

theorem distinctPaths_perm (h : files.Perm files') :
    (distinctPaths files).Perm (distinctPaths files') := by
  rw [distinctPaths, distinctPaths,
    List.perm_ext_iff_of_nodup (nodup_eraseDups _) (nodup_eraseDups _)]
  intro path
  rw [List.mem_eraseDups, List.mem_eraseDups, (changedPaths_perm h).mem_iff]

/-- Records of distinct paths have the same targets in every order. -/
theorem plannedFiles_eq_of_perm (h : files.Perm files') (hdistinct : (changedPaths files).Nodup)
    (hcounted : ∀ f ∈ files, f.IsCounted) (findings : List Finding) (maxTargets : Int) :
    plannedFiles files' findings maxTargets = plannedFiles files findings maxTargets := by
  have hmerged : (uncoveredPaths files' findings).map (merged files') =
      (uncoveredPaths files' findings).map (merged files) := by
    apply List.map_congr_left
    intro path hpath
    have hchanged := List.mem_eraseDups.mp (List.mem_of_mem_filter hpath)
    exact merged_eq_of_perm h hdistinct (mem_changedPaths.mp hchanged).1
  have hfiles : ((uncoveredPaths files' findings).map (merged files')).Perm
      ((uncoveredPaths files findings).map (merged files)) := by
    rw [hmerged]
    exact ((distinctPaths_perm h).symm.filter _).map _
  have hsorted : sortedFiles files' findings = sortedFiles files findings := by
    have hperm := ((sortedFiles_perm files' findings).trans hfiles).trans
      (sortedFiles_perm files findings).symm
    have hcounted' : ∀ f ∈ files', f.IsCounted := fun f hf => hcounted f (h.mem_iff.mpr hf)
    refine hperm.eq_of_pairwise ?_ (pairwise_sortedFiles hcounted' findings)
      (pairwise_sortedFiles hcounted findings)
    intro a b _ _ hab hba
    exact absurd hba (lt_asymm hab)
  rw [plannedFiles_eq, plannedFiles_eq, hsorted]

/-- What a plan says without the table of risks. -/
def CoveragePlan.verdict (p : CoveragePlan) : List CoverageTarget × Bool × CoverageStats :=
  (p.targets, p.shouldRun, p.stats)

theorem verdict_eq_of_perm (h : files.Perm files') (hdistinct : (changedPaths files).Nodup)
    (hcounted : ∀ f ∈ files, f.IsCounted) :
    (coveragePlan files' findings maxTargets).map CoveragePlan.verdict =
      (coveragePlan files findings maxTargets).map CoveragePlan.verdict := by
  have hplanned := plannedFiles_eq_of_perm h hdistinct hcounted findings maxTargets
  have hpaths := distinctPaths_perm h
  have hempty : (ChangedFiles.ofRecords files').entries.isEmpty =
      (ChangedFiles.ofRecords files).entries.isEmpty := by
    rw [isEmpty_entries_ofRecords, isEmpty_entries_ofRecords, hpaths.isEmpty_eq]
  have hlooks : coveredPaths (.ofRecords files') findings =
      coveredPaths (.ofRecords files) findings := by
    apply List.filter_congr
    intro path _
    rw [Bool.eq_iff_iff, contains_ofRecords, contains_ofRecords,
      (changedPaths_perm h).mem_iff]
  have htotal : (ChangedFiles.ofRecords files').entries.length =
      (ChangedFiles.ofRecords files).entries.length := by
    rw [entries_ofRecords, entries_ofRecords, List.length_map, List.length_map, hpaths.length_eq]
  have huncovered : (uncoveredFiles (.ofRecords files')
        (coveredPaths (.ofRecords files') findings)).length =
      (uncoveredFiles (.ofRecords files) (coveredPaths (.ofRecords files) findings)).length := by
    rw [uncoveredFiles_ofRecords, uncoveredFiles_ofRecords, List.length_map, List.length_map]
    exact (hpaths.symm.filter _).length_eq
  unfold plannedFiles at hplanned
  rw [hlooks] at hplanned huncovered
  unfold coveragePlan
  dsimp only
  rw [hempty, hlooks, hplanned]
  split_ifs
  · rfl
  · simp [Except.map, CoveragePlan.verdict, CoveragePlan.ofTargets, htotal, huncovered]
  · rfl

/-! ### Plans -/

/-- Whether a plan has paths as its targets, each with what its records say together, and tells the
covered from the uncovered files. -/
structure CoveragePlan.HasTargets (files : List ChangedFile) (findings : List Finding)
    (paths : List String) (p : CoveragePlan) : Prop where
  targets : p.targets = paths.map fun path => (merged files path).toTarget
  total : p.stats.totalChanged = (distinctPaths files).length
  uncovered : p.stats.uncoveredChanged = (uncoveredPaths files findings).length
  balance : p.stats.coveredChanged + p.stats.uncoveredChanged = p.stats.totalChanged

variable {p : CoveragePlan}

theorem hasTargets_of_coveragePlan (h : coveragePlan files findings maxTargets = .ok p) :
    p.HasTargets files findings
      ((plannedFiles files findings maxTargets).map ChangedFile.path) := by
  obtain ⟨htargets, htotal, hcovered, huncovered, -⟩ := coveragePlan_eq_ok h
  refine ⟨?_, htotal, huncovered, ?_⟩
  · rw [htargets, List.map_map]
    apply List.map_congr_left
    intro f hf
    show f.toTarget = (merged files f.path).toTarget
    rw [← (mem_plannedFiles hf).2]
  · rw [htotal, hcovered, huncovered, uncoveredPaths]
    exact (List.length_eq_length_filter_add _).symm

/-- For records of changed files, the most urgent paths are the targets of the plan, which exists
iff the churn of each of them can be written. Neither the order of the findings nor, if no path
comes twice, that of the records changes anything that a plan decides. -/
theorem coverage_targets_iff {raws : List Value} (h : ∀ v ∈ raws, IsFileRecord v)
    (findings : List Finding) (maxTargets : Int) :
    let files := raws.map ChangedFile.supplied
    raws.mapM ChangedFile.ofValue = .ok files ∧
    (∃ paths, AreMostUrgent files findings maxTargets paths ∧
      ((∃ p, coveragePlan files findings maxTargets = .ok p ∧ p.HasTargets files findings paths) ↔
        ∀ path ∈ paths, isWritable (merged files path).churn = true) ∧
      ((∃ e, coveragePlan files findings maxTargets = .error e) ↔
        ∃ path ∈ paths, isWritable (merged files path).churn = false)) ∧
    (∀ findings', findings.Perm findings' →
      coveragePlan files findings' maxTargets = coveragePlan files findings maxTargets) ∧
    ∀ raws', raws.Perm raws' → (changedPaths files).Nodup →
      (coveragePlan (raws'.map ChangedFile.supplied) findings maxTargets).map
          CoveragePlan.verdict =
        (coveragePlan files findings maxTargets).map CoveragePlan.verdict := by
  intro files
  have hcounted : ∀ f ∈ files, f.IsCounted := forall_mem_isCounted_supplied raws
  have hmerged : ∀ f ∈ plannedFiles files findings maxTargets, merged files f.path = f :=
    fun f hf => (mem_plannedFiles hf).2.symm
  refine ⟨mapM_ofValue_eq h, ⟨_, areMostUrgent_plannedFiles hcounted findings maxTargets, ?_, ?_⟩,
    fun findings' => coveragePlan_eq_of_perm,
    fun raws' hraws hdistinct => verdict_eq_of_perm (hraws.map _) hdistinct hcounted⟩
  · have hwritable : (∀ path ∈ (plannedFiles files findings maxTargets).map ChangedFile.path,
        isWritable (merged files path).churn = true) ↔
        ∀ f ∈ plannedFiles files findings maxTargets, isWritable f.churn = true := by
      rw [List.forall_mem_map]
      exact forall₂_congr fun f hf => by rw [hmerged f hf]
    rw [hwritable, ← exists_coveragePlan_eq_ok_iff hcounted]
    constructor
    · rintro ⟨p, hp, -⟩
      exact ⟨p, hp⟩
    · rintro ⟨p, hp⟩
      exact ⟨p, hp, hasTargets_of_coveragePlan hp⟩
  · rw [exists_coveragePlan_eq_error_iff hcounted]
    constructor
    · rintro ⟨f, hf, hlong⟩
      exact ⟨f.path, List.mem_map_of_mem hf, by rwa [hmerged f hf]⟩
    · rintro ⟨path, hpath, hlong⟩
      obtain ⟨f, hf, rfl⟩ := List.mem_map.mp hpath
      exact ⟨f, hf, by rwa [hmerged f hf] at hlong⟩

/-- Records of four files: one of a risk that it was given, one of a large change, and two of low
risk with the same churn. -/
def fourRecords : List Value :=
  [.record [("path", .text "./src/c.py"), ("risk", .text "medium")],
    .record [("path", .text "src/d.py"), ("additions", .int 300)],
    .record [("path", .text "src/a.py"), ("deletions", .int 5)],
    .record [("path", .text "src/b.py"), ("additions", .int 5)]]

/-- Of the three files that the remark is not about, the two most urgent ones are targets, also if
the records come in the opposite order. -/
theorem coverage_targets_fourRecords :
    let files := fourRecords.map ChangedFile.supplied
    let findings := [{ remark "d" "one" 1 with path := "src/d.py" }]
    (∀ v ∈ fourRecords, IsFileRecord v) ∧ (changedPaths files).Nodup ∧
    ∃ p, coveragePlan files findings 2 = .ok p ∧
      AreMostUrgent files findings 2 ["src/c.py", "src/a.py"] ∧
      p.targets.map CoverageTarget.path = ["src/c.py", "src/a.py"] ∧
      (coveragePlan (fourRecords.reverse.map ChangedFile.supplied) findings 2).map
        CoveragePlan.verdict = .ok p.verdict := by
  intro files findings
  have hrecords : ∀ v ∈ fourRecords, IsFileRecord v := by decide +kernel
  have hdistinct : (changedPaths files).Nodup := by decide +kernel
  have hwritable : ∀ path ∈ uncoveredPaths files findings,
      isWritable (merged files path).churn = true := by
    decide +kernel
  have hplanned : (plannedFiles files findings 2).map ChangedFile.path =
      ["src/c.py", "src/a.py"] := by
    have hsorted : sortedFiles files findings =
        (uncoveredPaths files findings).map (merged files) :=
      List.mergeSort_of_pairwise (by decide +kernel)
    rw [plannedFiles_eq, hsorted]
    decide +kernel
  obtain ⟨-, ⟨paths, hurgent, hplan, -⟩, -, hreordered⟩ := coverage_targets_iff hrecords findings 2
  obtain ⟨p, hp, htargets⟩ :=
    hplan.mpr fun path hpath => hwritable path (hurgent.uncovered path hpath)
  have hpaths : p.targets.map CoverageTarget.path = paths := by
    rw [htargets.targets, List.map_map]
    exact List.map_id paths
  have hnamed : p.targets.map CoverageTarget.path = ["src/c.py", "src/a.py"] := by
    rw [(coveragePlan_eq_ok hp).1, List.map_map]
    exact hplanned
  have hlast := hreordered _ (List.reverse_perm _).symm hdistinct
  rw [hp] at hlast
  exact ⟨hrecords, hdistinct, p, hp, hnamed ▸ hpaths ▸ hurgent, hnamed, hlast⟩

/-- Records of two files, the counts of the first of which can be read, but not written as a sum. -/
def oversizedRecords : List Value :=
  [.record [("path", .text "src/a.py"), ("additions", .nat longCount),
      ("deletions", .nat longCount)],
    .record [("path", .text "src/b.py")]]

/-- They leave no plan, and so no targets. -/
theorem not_targets_oversizedRecords :
    let files := oversizedRecords.map ChangedFile.supplied
    (∀ v ∈ oversizedRecords, IsFileRecord v) ∧ isWritable longCount = true ∧
    ¬ ∃ paths p, AreMostUrgent files [] defaultMaxTargets paths ∧
      coveragePlan files [] defaultMaxTargets = .ok p ∧ p.HasTargets files [] paths := by
  intro files
  refine ⟨by decide +kernel, by decide +kernel, ?_⟩
  rintro ⟨-, p, -, hp, -⟩
  have hcounted := forall_mem_isCounted_supplied oversizedRecords
  have hlong := (exists_coveragePlan_eq_ok_iff hcounted).mp ⟨p, hp⟩ _
    (merged_mem_plannedFiles "src/a.py" (by decide +kernel) (by decide +kernel))
  revert hlong
  decide +kernel

end Triage
