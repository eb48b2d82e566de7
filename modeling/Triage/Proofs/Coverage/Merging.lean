import Triage.Proofs.Coverage.Plans
import Triage.Proofs.Guards
import Triage.Proofs.OrderedMap
import Triage.Proofs.Traversal

/-!
# What records of a file say together

Of the records of one path, each field is the last one that any of them knows (`merged`). The
changed files that a plan is about are the distinct paths in the order in which they come up, each
with what its records say together (`entries_ofRecords`); so are the totals and the risks of the
plan (`coveragePlan_merges_iff`).
-/

namespace Triage

/-! ### Documents -/

/-- Whether a document is a record of a changed file: a table with a text as its path. -/
structure IsFileRecord (v : Value) : Prop where
  table : v.isTable = true
  path : ((v.getFirst? ["path", "filename"]).bind Value.text?).isSome = true

instance (v : Value) : Decidable (IsFileRecord v) :=
  decidable_of_iff (v.isTable = true ∧
      ((v.getFirst? ["path", "filename"]).bind Value.text?).isSome = true)
    ⟨fun h => ⟨h.1, h.2⟩, fun h => ⟨h.table, h.path⟩⟩

/-- What a document says of a changed file, field by field. -/
def ChangedFile.supplied (v : Value) : ChangedFile where
  path := ((v.getFirst? ["path", "filename"]).bind Value.text?).getD ""
  additions := optionalCount (v.get? "additions")
  deletions := optionalCount (v.get? "deletions")
  risk := optionalWord Risk (v.get? "risk")
  status := (v.get? "status").bind Value.text?

theorem IsFileRecord.ofValue_eq {v : Value} (h : IsFileRecord v) :
    ChangedFile.ofValue v = .ok (.supplied v) := by
  obtain ⟨path, hpath⟩ := Option.isSome_iff_exists.mp h.path
  simp [ChangedFile.ofValue, ChangedFile.supplied, h.table, hpath]

/-- Records are read one by one. -/
theorem mapM_ofValue_eq {raws : List Value} (h : ∀ v ∈ raws, IsFileRecord v) :
    raws.mapM ChangedFile.ofValue = .ok (raws.map ChangedFile.supplied) := by
  rw [mapM_eq_ok_iff, List.forall₂_map_right_iff, List.forall₂_same]
  exact fun v hv => (h v hv).ofValue_eq

/-! ### Records of one path -/

/-- The records of a path. -/
def recordsOn (path : String) (files : List ChangedFile) : List ChangedFile :=
  files.filter fun file => Path.relative file.path = path

/-- The last value that records know of a field. -/
def lastKnown {α : Type} (field : ChangedFile → Option α) (records : List ChangedFile) : Option α :=
  (records.filterMap field).getLast?

/-- What the records of a path say together: of each field, the last value that is known. -/
def merged (files : List ChangedFile) (path : String) : ChangedFile where
  path := path
  additions := lastKnown ChangedFile.additions (recordsOn path files)
  deletions := lastKnown ChangedFile.deletions (recordsOn path files)
  risk := lastKnown ChangedFile.risk (recordsOn path files)
  status := lastKnown (fun file => file.status.filter (· ≠ "")) (recordsOn path files)

variable {files : List ChangedFile} {file : ChangedFile} {path : String}

/-- A further record is asked first, and those before it if it does not know. -/
theorem lastKnown_concat {α : Type} (field : ChangedFile → Option α) (records : List ChangedFile)
    (file : ChangedFile) :
    lastKnown field (records ++ [file]) = (field file).or (lastKnown field records) := by
  rw [lastKnown, List.filterMap_append, List.getLast?_append, lastKnown]
  cases h : field file with
  | none => simp [h]
  | some a => simp [h]

theorem recordsOn_concat (files : List ChangedFile) (file : ChangedFile) (path : String) :
    recordsOn path (files ++ [file]) =
      if Path.relative file.path = path then recordsOn path files ++ [file]
      else recordsOn path files := by
  rw [recordsOn, List.filter_append]
  split_ifs with h
  · simp [recordsOn, h]
  · simp [recordsOn, h]

theorem recordsOn_eq_nil (hpath : path ≠ "") (h : path ∉ changedPaths files) :
    recordsOn path files = [] := by
  rw [recordsOn, List.filter_eq_nil_iff]
  intro file hfile heq
  exact h (mem_changedPaths.mpr ⟨hpath, file, hfile, of_decide_eq_true heq⟩)

/-- A record of another path says nothing. -/
theorem merged_concat_of_ne (h : Path.relative file.path ≠ path) :
    merged (files ++ [file]) path = merged files path := by
  unfold merged
  rw [recordsOn_concat, if_neg h]

/-- What a further record of a path says is put together with what was known. -/
theorem update_merged (h : Path.relative file.path = path) :
    .update path (some (merged files path)) file = merged (files ++ [file]) path := by
  unfold ChangedFile.update merged
  simp only [recordsOn_concat, if_pos h, lastKnown_concat, Option.bind_some]

/-- The first record of a path says all that is known. -/
theorem update_none (h : Path.relative file.path = path) (hnew : recordsOn path files = []) :
    .update path none file = merged (files ++ [file]) path := by
  unfold ChangedFile.update merged
  simp only [recordsOn_concat, if_pos h, lastKnown_concat, hnew, Option.bind_none]
  rfl

/-! ### Counts -/

/-- Whether no count of a record is negative. -/
structure ChangedFile.IsCounted (f : ChangedFile) : Prop where
  additions : ∀ n ∈ f.additions, 0 ≤ n
  deletions : ∀ n ∈ f.deletions, 0 ≤ n

theorem isCounted_supplied (v : Value) : (ChangedFile.supplied v).IsCounted where
  additions := by
    intro n hn
    exact of_decide_eq_true (Option.mem_filter_iff.mp hn).2
  deletions := by
    intro n hn
    exact of_decide_eq_true (Option.mem_filter_iff.mp hn).2

/-- What is known last was known of a record. -/
theorem exists_of_lastKnown {α : Type} {field : ChangedFile → Option α}
    {records : List ChangedFile} {a : α} (h : a ∈ lastKnown field records) :
    ∃ f ∈ records, a ∈ field f :=
  List.mem_filterMap.mp (List.mem_of_getLast? h)

theorem isCounted_merged (h : ∀ f ∈ files, f.IsCounted) (path : String) :
    (merged files path).IsCounted where
  additions := by
    intro n hn
    obtain ⟨f, hf, hknown⟩ := exists_of_lastKnown hn
    exact (h f (List.mem_of_mem_filter hf)).additions n hknown
  deletions := by
    intro n hn
    obtain ⟨f, hf, hknown⟩ := exists_of_lastKnown hn
    exact (h f (List.mem_of_mem_filter hf)).deletions n hknown

theorem ChangedFile.IsCounted.churn_nonneg {f : ChangedFile} (h : f.IsCounted) : 0 ≤ f.churn := by
  have hadditions : 0 ≤ f.additions.getD 0 := by
    cases hcount : f.additions with
    | none => exact Int.le_refl 0
    | some n => exact h.additions n hcount
  have hdeletions : 0 ≤ f.deletions.getD 0 := by
    cases hcount : f.deletions with
    | none => exact Int.le_refl 0
    | some n => exact h.deletions n hcount
  exact Int.add_nonneg hadditions hdeletions

theorem forall_mem_isCounted_supplied (raws : List Value) :
    ∀ f ∈ raws.map ChangedFile.supplied, f.IsCounted := by
  intro f hf
  obtain ⟨v, -, rfl⟩ := List.mem_map.mp hf
  exact isCounted_supplied v

/-- Without a churn to tell there are no lines, and their number can be written as well. -/
theorem ChangedFile.IsCounted.hasReason_eq {f : ChangedFile} (h : f.IsCounted) :
    f.hasReason = isWritable f.churn := by
  unfold hasReason
  by_cases hchurn : f.churn ≤ 0
  · have hzero : f.churn = 0 := Int.le_antisymm hchurn h.churn_nonneg
    have hwritable : isWritable 0 = true := by decide +kernel
    rw [hzero, hwritable, Bool.or_true]
  · rw [decide_eq_false hchurn, Bool.and_false, Bool.false_or]

/-! ### All records -/

/-- The paths of changed files, each at its first occurrence. -/
def distinctPaths (files : List ChangedFile) : List String :=
  (changedPaths files).eraseDups

theorem ofRecords_concat (files : List ChangedFile) (file : ChangedFile) :
    ChangedFiles.ofRecords (files ++ [file]) = (ChangedFiles.ofRecords files).record file :=
  List.foldl_concat ..

theorem changedPaths_concat (files : List ChangedFile) (file : ChangedFile) :
    changedPaths (files ++ [file]) = changedPaths files ++
      if Path.relative file.path = "" then [] else [Path.relative file.path] := by
  rw [changedPaths, List.map_append, List.filter_append]
  split_ifs with h
  · simp [changedPaths, h]
  · simp [changedPaths, h]

/-- What is found under a path is what its records say together. -/
theorem get?_ofRecords (files : List ChangedFile) (path : String) :
    (ChangedFiles.ofRecords files).get? path =
      if path ∈ changedPaths files then some (merged files path) else none := by
  induction files using List.reverseRecOn generalizing path with
  | nil => rfl
  | append_singleton files file ih =>
    rw [ofRecords_concat, changedPaths_concat, ChangedFiles.record]
    by_cases hempty : Path.relative file.path = ""
    · -- A record without a path is passed over, and no changed path is empty.
      rw [if_pos hempty, if_pos hempty, List.append_nil, ih]
      by_cases hpath : path ∈ changedPaths files
      · have hne : Path.relative file.path ≠ path := hempty ▸ (mem_changedPaths.mp hpath).1.symm
        rw [if_pos hpath, if_pos hpath, merged_concat_of_ne hne]
      · rw [if_neg hpath, if_neg hpath]
    · rw [if_neg hempty, if_neg hempty, OrderedMap.get?_insert]
      by_cases heq : path = Path.relative file.path
      · subst heq
        rw [if_pos rfl, if_pos (List.mem_append_right _ (List.mem_singleton_self _)), ih]
        by_cases hknown : Path.relative file.path ∈ changedPaths files
        · rw [if_pos hknown, update_merged rfl]
        · rw [if_neg hknown, update_none rfl (recordsOn_eq_nil hempty hknown)]
      · have hmem : path ∈ changedPaths files ++ [Path.relative file.path] ↔
            path ∈ changedPaths files := by
          rw [List.mem_append, List.mem_singleton, or_iff_left heq]
        rw [if_neg heq, ih, merged_concat_of_ne (Ne.symm heq)]
        simp only [hmem]

theorem keys_ofRecords (files : List ChangedFile) :
    (ChangedFiles.ofRecords files).keys = distinctPaths files := by
  induction files using List.reverseRecOn with
  | nil => rfl
  | append_singleton files file ih =>
    rw [ofRecords_concat, distinctPaths, changedPaths_concat, ChangedFiles.record]
    split_ifs with hempty
    · rw [List.append_nil, ih, distinctPaths]
    · rw [OrderedMap.keys_insert, ih, eraseDups_concat, distinctPaths]
      simp only [List.mem_eraseDups]

/-- The changed files are the distinct paths, each with what its records say together. -/
theorem entries_ofRecords (files : List ChangedFile) :
    (ChangedFiles.ofRecords files).entries =
      (distinctPaths files).map fun path => (path, merged files path) := by
  have hnodup : (ChangedFiles.ofRecords files).keys.Nodup := by
    rw [keys_ofRecords]
    exact nodup_eraseDups _
  rw [OrderedMap.entries_eq hnodup, keys_ofRecords, ← List.filterMap_eq_map]
  apply List.filterMap_congr
  intro path hpath
  rw [get?_ofRecords, if_pos (List.mem_eraseDups.mp hpath)]
  rfl

theorem values_ofRecords (files : List ChangedFile) :
    (ChangedFiles.ofRecords files).values = (distinctPaths files).map (merged files) := by
  rw [OrderedMap.values, entries_ofRecords, List.map_map]
  rfl

/-! ### Looks -/

/-- Whether a finding that counts looks at a path. -/
def isCovered (findings : List Finding) (path : String) : Bool :=
  findings.any fun f => f.countsAsCoverage && Path.relative f.path = path

/-- The changed paths that no finding looks at. -/
def uncoveredPaths (files : List ChangedFile) (findings : List Finding) : List String :=
  (distinctPaths files).filter fun path => !isCovered findings path

variable {findings : List Finding}

/-- The changed paths that findings look at are the covered ones. -/
theorem mem_coveredPaths :
    path ∈ coveredPaths (.ofRecords files) findings ↔
      path ∈ distinctPaths files ∧ isCovered findings path = true := by
  rw [coveredPaths, List.mem_filter, contains_ofRecords, distinctPaths, List.mem_eraseDups,
    and_comm]
  simp [isCovered, and_assoc]

theorem uncoveredFiles_ofRecords (files : List ChangedFile) (findings : List Finding) :
    uncoveredFiles (.ofRecords files) (coveredPaths (.ofRecords files) findings) =
      (uncoveredPaths files findings).map (merged files) := by
  rw [uncoveredFiles, values_ofRecords, List.filter_map, uncoveredPaths]
  congr 1
  apply List.filter_congr
  intro path hpath
  rw [Bool.eq_iff_iff, Bool.not_eq_true', Bool.eq_false_iff]
  simp only [Function.comp_apply, decide_eq_true_eq, mem_coveredPaths]
  simp [merged, hpath]

/-- Every look at a changed path counts its path once. -/
theorem length_eraseDups_coveredPaths (files : List ChangedFile) (findings : List Finding) :
    (coveredPaths (.ofRecords files) findings).eraseDups.length =
      ((distinctPaths files).filter (isCovered findings)).length := by
  have hnodup : ((distinctPaths files).filter (isCovered findings)).Nodup :=
    (nodup_eraseDups _).filter _
  apply List.Perm.length_eq
  rw [List.perm_ext_iff_of_nodup (nodup_eraseDups _) hnodup]
  intro path
  rw [List.mem_eraseDups, mem_coveredPaths, List.mem_filter]

/-! ### Plans -/

/-- The risk of a path by its records: the last one that is known, or else that of the sum of the
two counts that are known last. -/
def mergedRisk (files : List ChangedFile) (path : String) : Risk :=
  (lastKnown ChangedFile.risk (recordsOn path files)).getD
    (riskOfChurn ((lastKnown ChangedFile.additions (recordsOn path files)).getD 0 +
      (lastKnown ChangedFile.deletions (recordsOn path files)).getD 0))

theorem tier_merged (files : List ChangedFile) (path : String) :
    (merged files path).tier = mergedRisk files path :=
  rfl

/-- Whether the totals, the risks and the targets of a plan are those of the distinct paths of
records, each with what its records say together. -/
structure CoveragePlan.Merges (files : List ChangedFile) (findings : List Finding)
    (p : CoveragePlan) : Prop where
  total : p.stats.totalChanged = (distinctPaths files).length
  covered : p.stats.coveredChanged = ((distinctPaths files).filter (isCovered findings)).length
  uncovered : p.stats.uncoveredChanged = (uncoveredPaths files findings).length
  risks : p.riskByPath = (distinctPaths files).map fun path => (path, mergedRisk files path)
  targets : ∀ t ∈ p.targets, t.path ∈ distinctPaths files ∧ t = (merged files t.path).toTarget

variable {maxTargets : Int} {p : CoveragePlan}

theorem isEmpty_entries_ofRecords (files : List ChangedFile) :
    (ChangedFiles.ofRecords files).entries.isEmpty = (distinctPaths files).isEmpty := by
  rw [entries_ofRecords, List.isEmpty_map]

theorem mem_plannedFiles {f : ChangedFile} (h : f ∈ plannedFiles files findings maxTargets) :
    f.path ∈ uncoveredPaths files findings ∧ f = merged files f.path := by
  have hsorted := List.mem_of_mem_take h
  rw [List.mem_mergeSort, uncoveredFiles_ofRecords, List.mem_map] at hsorted
  obtain ⟨path, hpath, rfl⟩ := hsorted
  exact ⟨hpath, rfl⟩

/-- Up to two uncovered files are all planned. -/
theorem merged_mem_plannedFiles (path : String) (h : (uncoveredPaths files findings).length ≤ 2)
    (hpath : path ∈ uncoveredPaths files findings) :
    merged files path ∈ plannedFiles files findings maxTargets := by
  have hlimit : (uncoveredPaths files findings).length ≤ targetLimit maxTargets := by
    unfold targetLimit
    omega
  rw [plannedFiles, uncoveredFiles_ofRecords, targetFiles, List.take_of_length_le]
  · rw [List.mem_mergeSort]
    exact List.mem_map_of_mem hpath
  · rwa [List.length_mergeSort, List.length_map]

/-- A plan has the planned files as its targets, and the totals and risks of the distinct paths. -/
theorem coveragePlan_eq_ok (h : coveragePlan files findings maxTargets = .ok p) :
    p.targets = (plannedFiles files findings maxTargets).map ChangedFile.toTarget ∧
      p.stats.totalChanged = (distinctPaths files).length ∧
      p.stats.coveredChanged = ((distinctPaths files).filter (isCovered findings)).length ∧
      p.stats.uncoveredChanged = (uncoveredPaths files findings).length ∧
      p.riskByPath = (distinctPaths files).map fun path => (path, mergedRisk files path) := by
  cases hempty : (ChangedFiles.ofRecords files).entries.isEmpty with
  | true =>
    rw [coveragePlan_of_isEmpty hempty] at h
    obtain rfl := Except.ok.inj h
    have hpaths : distinctPaths files = [] := by
      rwa [isEmpty_entries_ofRecords, List.isEmpty_iff] at hempty
    have hplanned : plannedFiles files findings maxTargets = [] := by
      rw [List.eq_nil_iff_forall_not_mem]
      intro f hf
      have hmem := List.mem_of_mem_filter (mem_plannedFiles hf).1
      rw [hpaths] at hmem
      exact List.not_mem_nil hmem
    rw [hplanned, uncoveredPaths, hpaths]
    exact ⟨rfl, rfl, rfl, rfl, rfl⟩
  | false =>
    obtain ⟨-, rfl⟩ := (coveragePlan_eq_ok_iff hempty).mp h
    refine ⟨rfl, ?_, length_eraseDups_coveredPaths files findings, ?_, ?_⟩
    · show (ChangedFiles.ofRecords files).entries.length = _
      rw [entries_ofRecords, List.length_map]
    · show (uncoveredFiles _ _).length = _
      rw [uncoveredFiles_ofRecords, List.length_map]
    · show (ChangedFiles.ofRecords files).entries.map _ = _
      rw [entries_ofRecords, List.map_map]
      exact List.map_congr_left fun path _ => congrArg (path, ·) (tier_merged files path)

theorem merges_of_coveragePlan (h : coveragePlan files findings maxTargets = .ok p) :
    p.Merges files findings := by
  obtain ⟨htargets, htotal, hcovered, huncovered, hrisks⟩ := coveragePlan_eq_ok h
  refine ⟨htotal, hcovered, huncovered, hrisks, ?_⟩
  intro t ht
  rw [htargets, List.mem_map] at ht
  obtain ⟨f, hf, rfl⟩ := ht
  obtain ⟨hpath, hmerged⟩ := mem_plannedFiles hf
  refine ⟨List.mem_of_mem_filter hpath, ?_⟩
  show f.toTarget = (merged files f.path).toTarget
  rw [← hmerged]

theorem isCounted_of_mem_plannedFiles (hcounted : ∀ f ∈ files, f.IsCounted) {f : ChangedFile}
    (h : f ∈ plannedFiles files findings maxTargets) : f.IsCounted := by
  rw [(mem_plannedFiles h).2]
  exact isCounted_merged hcounted f.path

/-- There is a plan iff the churn of every planned file can be written. -/
theorem exists_coveragePlan_eq_ok_iff (hcounted : ∀ f ∈ files, f.IsCounted) :
    (∃ p, coveragePlan files findings maxTargets = .ok p) ↔
      ∀ f ∈ plannedFiles files findings maxTargets, isWritable f.churn = true := by
  refine exists_coveragePlan_iff.trans (forall₂_congr fun f hf => ?_)
  rw [(isCounted_of_mem_plannedFiles hcounted hf).hasReason_eq]

/-- Otherwise the churn of a planned file has too many digits, and the plan fails. -/
theorem exists_coveragePlan_eq_error_iff (hcounted : ∀ f ∈ files, f.IsCounted) :
    (∃ e, coveragePlan files findings maxTargets = .error e) ↔
      ∃ f ∈ plannedFiles files findings maxTargets, isWritable f.churn = false := by
  refine exists_coveragePlan_error_iff.trans (exists_congr fun f => and_congr_right fun hf => ?_)
  rw [(isCounted_of_mem_plannedFiles hcounted hf).hasReason_eq]

/-- Records of changed files are read field by field. If the churn of every planned file can be
written, there is a plan, about the distinct paths of the records with what the records of each path
say together; otherwise there is none. -/
theorem coveragePlan_merges_iff {raws : List Value} (h : ∀ v ∈ raws, IsFileRecord v)
    (findings : List Finding) (maxTargets : Int) :
    let files := raws.map ChangedFile.supplied
    raws.mapM ChangedFile.ofValue = .ok files ∧
    ((∃ p, coveragePlan files findings maxTargets = .ok p ∧ p.Merges files findings) ↔
      ∀ f ∈ plannedFiles files findings maxTargets, isWritable f.churn = true) ∧
    ((∃ e, coveragePlan files findings maxTargets = .error e) ↔
      ∃ f ∈ plannedFiles files findings maxTargets, isWritable f.churn = false) := by
  intro files
  have hcounted := forall_mem_isCounted_supplied raws
  refine ⟨mapM_ofValue_eq h, ?_, exists_coveragePlan_eq_error_iff hcounted⟩
  constructor
  · rintro ⟨p, hp, -⟩
    exact (exists_coveragePlan_eq_ok_iff hcounted).mp ⟨p, hp⟩
  · intro hwritable
    obtain ⟨p, hp⟩ := (exists_coveragePlan_eq_ok_iff hcounted).mpr hwritable
    exact ⟨p, hp, merges_of_coveragePlan hp⟩

/-- Records of two files in several spellings. Of the first one, the additions are known to be 10
and then 0, and the deletions to be 80; of the second one, the risk and the additions are known
apart. -/
def scatteredRecords : List Value :=
  [.record [("path", .text "./src/a.py"), ("additions", .int 10), ("risk", .text "none")],
    .record [("filename", .text "src/b.py"), ("risk", .text " High ")],
    .record [("path", .text "/src/a.py"), ("additions", .int 0), ("deletions", .int 80)],
    .record [("path", .text "src/b.py"), ("additions", .int 2), ("risk", .null)],
    .record [("path", .text "src/a.py"), ("additions", .int (-1)), ("deletions", .bool true)],
    .record [("path", .text "./")]]

/-- The counts of the first file make its risk, and the second one keeps the risk that it was
given. -/
theorem coveragePlan_merges_scatteredRecords :
    (∀ v ∈ scatteredRecords, IsFileRecord v) ∧
    ∃ p, coveragePlan (scatteredRecords.map ChangedFile.supplied) [] defaultMaxTargets = .ok p ∧
      p.Merges (scatteredRecords.map ChangedFile.supplied) [] ∧
      p.riskByPath = [("src/a.py", .medium), ("src/b.py", .high)] := by
  have hrecords : ∀ v ∈ scatteredRecords, IsFileRecord v := by decide +kernel
  obtain ⟨-, hplan, -⟩ := coveragePlan_merges_iff hrecords [] defaultMaxTargets
  obtain ⟨p, hp, hmerges⟩ := hplan.mpr (by
    intro f hf
    obtain ⟨hpath, hmerged⟩ := mem_plannedFiles hf
    have hwritable : ∀ path ∈ uncoveredPaths (scatteredRecords.map ChangedFile.supplied) [],
        isWritable (merged (scatteredRecords.map ChangedFile.supplied) path).churn = true := by
      decide +kernel
    rw [hmerged]
    exact hwritable _ hpath)
  refine ⟨hrecords, p, hp, hmerges, ?_⟩
  rw [hmerges.risks]
  decide +kernel

/-- A count with as many digits as can be read. -/
def longCount : ℕ :=
  9 * Nat.pow 10 (maxIntegerDigits - 1)

/-- Two records of a file, each with a count that can be read, whose sum cannot be written. -/
def longRecords : List Value :=
  [.record [("path", .text "src/a.py"), ("additions", .nat longCount)],
    .record [("path", .text "./src/a.py"), ("deletions", .nat longCount)]]

/-- They are put together, and leave no plan. -/
theorem not_merges_longRecords :
    (∀ v ∈ longRecords, IsFileRecord v) ∧ isWritable longCount = true ∧
    ¬ ∃ p, coveragePlan (longRecords.map ChangedFile.supplied) [] defaultMaxTargets = .ok p ∧
      p.Merges (longRecords.map ChangedFile.supplied) [] := by
  refine ⟨by decide +kernel, by decide +kernel, ?_⟩
  rintro ⟨p, hp, -⟩
  have hcounted := forall_mem_isCounted_supplied longRecords
  have hlong := (exists_coveragePlan_eq_ok_iff hcounted).mp ⟨p, hp⟩ _
    (merged_mem_plannedFiles "src/a.py" (by decide +kernel) (by decide +kernel))
  revert hlong
  decide +kernel

end Triage
