import Triage.Proofs.Coverage.Targets
import Triage.Proofs.Rounding
import Triage.Proofs.Supplement.Extension

/-!
# A supplement only adds to coverage

A supplement keeps the findings of the first pass up to the numbers of their ids and keys, and adds
none that is minor, so of what it adds exactly the inline findings on changed files count as looks
(`coveredPaths_supplement`). With more looks, fewer files are uncovered, the ratio is not rounded
below the old one, and the count of findings does not fall: if a further pass is still worth while,
the first supplement was (`CoveragePlan.Improves`). But the files that are covered make room among
the targets for others, and if the churn of one of those cannot be written, there is no second plan
(`coverage_of_supplement_iff`).
-/

namespace Triage

variable {changed : ChangedFiles} {files : List ChangedFile} {findings first second : List Finding}

/-! ### Looks -/

/-- The inline findings on changed files. -/
def inlineOn (files : List ChangedFile) (findings : List Finding) : List Finding :=
  findings.filter fun f => f.commentType = .inline && Path.relative f.path ∈ changedPaths files

theorem coveredPaths_append (changed : ChangedFiles) (first second : List Finding) :
    coveredPaths changed (first ++ second) =
      coveredPaths changed first ++ coveredPaths changed second := by
  simp only [coveredPaths, List.filter_append, List.map_append]

theorem coveredPaths_cons (changed : ChangedFiles) (f : Finding) (findings : List Finding) :
    coveredPaths changed (f :: findings) =
      (if f.countsAsCoverage && changed.contains (Path.relative f.path) then
        [Path.relative f.path] else []) ++ coveredPaths changed findings := by
  cases hcounts : f.countsAsCoverage with
  | true =>
    cases hpath : changed.contains (Path.relative f.path) with
    | true => simp [coveredPaths, hcounts, hpath]
    | false => simp [coveredPaths, hcounts, hpath]
  | false => simp [coveredPaths, hcounts]

/-- Ids and keys do not matter to coverage. -/
theorem coveredPaths_of_isNumbered (h : List.Forall₂ Finding.IsNumbered first second) :
    coveredPaths changed second = coveredPaths changed first := by
  induction h with
  | nil => rfl
  | @cons f g first second hfg _ ih =>
    obtain ⟨j, k, rfl⟩ := hfg
    rw [coveredPaths_cons, coveredPaths_cons, ih]
    rfl

/-- Among findings that are not minor, the inline ones count. -/
theorem coveredPaths_of_worthy (h : ∀ f ∈ findings, f.isMinor = false) :
    coveredPaths (.ofRecords files) findings =
      (inlineOn files findings).map fun f => Path.relative f.path := by
  unfold coveredPaths inlineOn
  rw [List.filter_map, List.filter_filter]
  congr 1
  apply List.filter_congr
  intro f hf
  have hcontains := contains_ofRecords files (Path.relative f.path)
  rw [Finding.countsAsCoverage, h f hf, Bool.eq_iff_iff]
  simp [hcontains, and_comm]

theorem coveredPaths_of_isEmpty (h : changed.entries.isEmpty = true) (findings : List Finding) :
    coveredPaths changed findings = [] := by
  rw [coveredPaths, List.filter_eq_nil_iff]
  intro path _
  rw [OrderedMap.contains, OrderedMap.get?, List.isEmpty_iff.mp h]
  exact Bool.false_ne_true

/-- The findings of the first pass stay in front. -/
theorem forall₂_take_of_extends {base : List Finding} {drafts : List Draft} {r : Supplemented}
    {outcomes : List SupplementOutcome} (h : r.Extends base drafts outcomes) :
    List.Forall₂ Finding.IsNumbered base (r.findings.take base.length) := by
  have htake := List.forall₂_take base.length h.findings
  rwa [List.take_left] at htake

/-- What counts after a supplement is what counted before, then what it added inline. -/
theorem coveredPaths_supplement {base : List Finding} {drafts : List Draft} {r : Supplemented}
    {outcomes : List SupplementOutcome} (h : r.Extends base drafts outcomes) :
    coveredPaths (.ofRecords files) r.findings =
      coveredPaths (.ofRecords files) base ++
        (inlineOn files (r.findings.drop base.length)).map fun f => Path.relative f.path := by
  have hworthy : ∀ f ∈ r.findings.drop base.length, f.isMinor = false := by
    intro f hf
    obtain ⟨i, hi, rfl⟩ := List.getElem_of_mem hf
    rw [List.getElem_drop]
    exact h.worthy _ _ (Nat.le_add_right _ _)
  conv_lhs => rw [← List.take_append_drop base.length r.findings]
  rw [coveredPaths_append, coveredPaths_of_isNumbered (forall₂_take_of_extends h),
    coveredPaths_of_worthy hworthy]

/-- The changed paths that a finding looks at. -/
def coveredSet (files : List ChangedFile) (findings : List Finding) : Finset String :=
  ((distinctPaths files).filter (isCovered findings)).toFinset

theorem coveredSet_eq_toFinset (files : List ChangedFile) (findings : List Finding) :
    coveredSet files findings = (coveredPaths (.ofRecords files) findings).toFinset := by
  ext path
  rw [coveredSet, List.mem_toFinset, List.mem_toFinset, List.mem_filter, mem_coveredPaths]

/-- The plan tells how many changed paths are covered. -/
theorem coveredChanged_eq_card {maxTargets : Int} {p : CoveragePlan}
    (h : coveragePlan files findings maxTargets = .ok p) :
    p.stats.coveredChanged = (coveredSet files findings).card := by
  have hnodup : ((distinctPaths files).filter (isCovered findings)).Nodup :=
    (nodup_eraseDups _).filter _
  obtain ⟨-, -, hcovered, -⟩ := coveragePlan_eq_ok h
  rw [hcovered, coveredSet, List.toFinset_card_of_nodup hnodup]

/-! ### Plans -/

/-- Whether a plan is one for the same changed files with so many more looks at them, and does not
ask for a further pass unless the other one does. -/
structure CoveragePlan.Improves (p' p : CoveragePlan) (looks : ℕ) : Prop where
  findings : p'.stats.findingsOnChanged = p.stats.findingsOnChanged + looks
  total : p'.stats.totalChanged = p.stats.totalChanged
  expected : p'.stats.minExpectedFindings = p.stats.minExpectedFindings
  risks : p'.riskByPath = p.riskByPath
  run : p'.shouldRun = true → p.shouldRun = true

theorem length_uncoveredFiles_append_le (changed : ChangedFiles) (looks more : List String) :
    (uncoveredFiles changed (looks ++ more)).length ≤ (uncoveredFiles changed looks).length := by
  apply List.Sublist.length_le
  apply List.monotone_filter_right
  intro f hf
  simp only [List.mem_append, not_or, decide_eq_true_eq] at hf ⊢
  exact hf.1

theorem length_eraseDups_le_append (looks more : List String) :
    looks.eraseDups.length ≤ (looks ++ more).eraseDups.length := by
  rw [eraseDups_append_eq, List.length_append]
  exact Nat.le_add_right _ _

/-- Each condition for a further pass holds of fewer looks if it holds of more. -/
theorem improves_ofTargets (changed : ChangedFiles) (looks more : List String)
    (targets targets' : List ChangedFile) :
    (CoveragePlan.ofTargets changed (looks ++ more) targets').Improves
      (.ofTargets changed looks targets) more.length where
  findings := List.length_append
  total := rfl
  expected := rfl
  risks := rfl
  run := by
    have huncovered := length_uncoveredFiles_append_le changed looks more
    have hcovered := length_eraseDups_le_append looks more
    simp only [CoveragePlan.ofTargets, Bool.and_eq_true, Bool.or_eq_true, decide_eq_true_eq]
    rintro ⟨⟨htotal, hpositive⟩, hlow⟩
    have hentries : 0 < changed.entries.length := by omega
    have hratio := Double.ofRatio_le_ofRatio hentries hcovered
    refine ⟨⟨htotal, by omega⟩, ?_⟩
    rcases hlow with hlow | hlow
    · exact Or.inl (Double.lt_of_le_of_lt hratio hlow)
    · rw [List.length_append] at hlow
      exact Or.inr (by omega)

/-- More looks improve a plan by their number. -/
theorem improves_of_coveredPaths {maxTargets : Int} {p p' : CoveragePlan} {more : List String}
    (hp : coveragePlan files first maxTargets = .ok p)
    (hp' : coveragePlan files second maxTargets = .ok p')
    (hcovered : coveredPaths (.ofRecords files) second =
      coveredPaths (.ofRecords files) first ++ more) : p'.Improves p more.length := by
  cases hempty : (ChangedFiles.ofRecords files).entries.isEmpty with
  | true =>
    -- No file changed, so both plans are the empty one and no look counts.
    rw [coveragePlan_of_isEmpty hempty] at hp hp'
    obtain rfl := Except.ok.inj hp
    obtain rfl := Except.ok.inj hp'
    rw [coveredPaths_of_isEmpty hempty, coveredPaths_of_isEmpty hempty, List.nil_append] at hcovered
    rw [← hcovered]
    exact ⟨rfl, rfl, rfl, rfl, id⟩
  | false =>
    obtain ⟨-, rfl⟩ := (coveragePlan_eq_ok_iff hempty).mp hp
    obtain ⟨-, rfl⟩ := (coveragePlan_eq_ok_iff hempty).mp hp'
    rw [hcovered]
    exact improves_ofTargets ..

/-- Whether a supplement keeps the findings of the first pass up to the numbers of their ids and
keys, adds as many behind them as it says, and the paths of the inline ones among these to those
that are covered. -/
structure Supplemented.Widens (files : List ChangedFile) (base : List Finding)
    (r : Supplemented) : Prop where
  kept : List.Forall₂ Finding.IsNumbered base (r.findings.take base.length)
  added : (r.findings.drop base.length).length = r.added
  covered : coveredSet files r.findings = coveredSet files base ∪
    ((inlineOn files (r.findings.drop base.length)).map fun f => Path.relative f.path).toFinset

theorem widens_of_extends {base : List Finding} {drafts : List Draft} {r : Supplemented}
    {outcomes : List SupplementOutcome} (h : r.Extends base drafts outcomes)
    (files : List ChangedFile) : r.Widens files base where
  kept := forall₂_take_of_extends h
  added := by
    have hlen := h.findings.length_eq
    rw [List.length_append] at hlen
    rw [List.length_drop, h.added]
    omega
  covered := by
    rw [coveredSet_eq_toFinset, coveredSet_eq_toFinset, coveredPaths_supplement h,
      List.toFinset_append]

/-- Whether the reason of every planned file can be written: it tells no churn, or a short one. -/
def IsPlannable (files : List ChangedFile) (findings : List Finding) (maxTargets : Int) : Prop :=
  ∀ f ∈ plannedFiles files findings maxTargets,
    (f.tier = .low ∧ f.churn ≤ 0) ∨ isWritable f.churn = true

theorem exists_coveragePlan_iff_isPlannable {maxTargets : Int} :
    (∃ p, coveragePlan files findings maxTargets = .ok p) ↔
      IsPlannable files findings maxTargets := by
  rw [exists_coveragePlan_iff, IsPlannable]
  simp [ChangedFile.hasReason]

theorem exists_coveragePlan_error_iff_not_isPlannable {maxTargets : Int} :
    (∃ e, coveragePlan files findings maxTargets = .error e) ↔
      ¬ IsPlannable files findings maxTargets := by
  rw [exists_coveragePlan_error_iff, IsPlannable]
  simp [ChangedFile.hasReason]

/-- Files whose churn can be written are plannable, whatever the findings. -/
theorem isPlannable_of_isWritable {maxTargets : Int}
    (h : ∀ path ∈ distinctPaths files, isWritable (merged files path).churn = true) :
    IsPlannable files findings maxTargets := by
  intro f hf
  obtain ⟨hpath, hmerged⟩ := mem_plannedFiles hf
  rw [hmerged]
  exact Or.inr (h _ (List.mem_of_mem_filter hpath))

/-- A supplement has a result iff an id and a key can be made for every draft. If so, it widens the
set of covered files, and if the reasons of the planned files can be written before and after it,
the plan after it has exactly the inline findings on changed files that were added as further looks,
and does not ask for another pass unless the plan before did. Otherwise a plan is missing. -/
theorem coverage_of_supplement_iff (files : List ChangedFile) (base : List Finding)
    (drafts : List Draft) (maxTargets : Int) :
    ((∃ r, supplement base drafts = .ok r) ↔ ∀ draft ∈ drafts, draft.IsIdentifiable) ∧
    ∀ r, supplement base drafts = .ok r →
      r.Widens files base ∧
      ((∃ p p', coveragePlan files base maxTargets = .ok p ∧
          coveragePlan files r.findings maxTargets = .ok p' ∧
          p'.Improves p (inlineOn files (r.findings.drop base.length)).length ∧
          p.stats.coveredChanged = (coveredSet files base).card ∧
          p'.stats.coveredChanged = (coveredSet files r.findings).card) ↔
        IsPlannable files base maxTargets ∧ IsPlannable files r.findings maxTargets) ∧
      ((∃ e, coveragePlan files r.findings maxTargets = .error e) ↔
        ¬ IsPlannable files r.findings maxTargets) := by
  refine ⟨exists_supplement_eq_ok_iff base drafts, ?_⟩
  intro r hr
  obtain ⟨-, outcomes, hjudged, houtcomes⟩ := supplement_eq_ok_iff_areJudged.mp hr
  have hextends : r.Extends base drafts outcomes := houtcomes ▸ extends_ofOutcomes hjudged
  refine ⟨widens_of_extends hextends files, ?_, exists_coveragePlan_error_iff_not_isPlannable⟩
  rw [← exists_coveragePlan_iff_isPlannable, ← exists_coveragePlan_iff_isPlannable]
  constructor
  · rintro ⟨p, p', hp, hp', -⟩
    exact ⟨⟨p, hp⟩, p', hp'⟩
  · rintro ⟨⟨p, hp⟩, p', hp'⟩
    have himproves := improves_of_coveredPaths hp hp' (coveredPaths_supplement hextends)
    rw [List.length_map] at himproves
    exact ⟨p, p', hp, hp', himproves, coveredChanged_eq_card hp, coveredChanged_eq_card hp'⟩

def threeFiles : List ChangedFile :=
  ["src/a.py", "src/b.py", "./src/c.py"].map fun path => ⟨path, some 12, some 3, none, none⟩

/-- A second pass with an inline remark on one file and a remark for the summary on another one. -/
def wideningPass : List Draft :=
  [.finding { remark "b" "two" 2 with path := "./src/b.py" },
    .finding { remark "c" "three" 3 with path := "src/c.py", commentType := .summary }]

/-- Of two remarks that were added, the inline one is a further look. -/
theorem coverage_of_wideningPass :
    ∃ r p p', supplement [remark "a" "one" 1] wideningPass = .ok r ∧
      coveragePlan threeFiles [remark "a" "one" 1] defaultMaxTargets = .ok p ∧
      coveragePlan threeFiles r.findings defaultMaxTargets = .ok p' ∧ r.added = 2 ∧
      p'.stats.findingsOnChanged = p.stats.findingsOnChanged + 1 ∧
      p.stats.coveredChanged = 1 ∧ p'.stats.coveredChanged = 2 := by
  have hr : supplement [remark "a" "one" 1] wideningPass =
      .ok (.ofOutcomes [remark "a" "one" 1]
        [.added { remark "b" "two" 2 with path := "src/b.py" },
          .added { remark "c" "three" 3 with path := "src/c.py", commentType := .summary }]) := by
    decide +kernel
  have hshort : ∀ path ∈ distinctPaths threeFiles,
      isWritable (merged threeFiles path).churn = true := by
    decide +kernel
  obtain ⟨-, hsupplement⟩ :=
    coverage_of_supplement_iff threeFiles [remark "a" "one" 1] wideningPass defaultMaxTargets
  obtain ⟨-, hplans, -⟩ := hsupplement _ hr
  obtain ⟨p, p', hp, hp', himproves, hcard, hcard'⟩ :=
    hplans.mpr ⟨isPlannable_of_isWritable hshort, isPlannable_of_isWritable hshort⟩
  refine ⟨_, p, p', hr, hp, hp', rfl, himproves.findings, ?_, ?_⟩
  · rw [hcard]
    decide +kernel
  · rw [hcard']
    decide +kernel

/-- Three files, the last of which is said to be of low risk, but has a churn that cannot be
written. -/
def hiddenChurn : List ChangedFile :=
  [⟨"src/a.py", some 300, none, none, none⟩, ⟨"src/b.py", some 100, none, none, none⟩,
    ⟨"src/c.py", some longCount, some longCount, some .low, none⟩]

/-- There is a plan for the first two files, but none once a remark covers the first one. -/
theorem not_improves_hiddenChurn :
    ∃ r p, supplement [] [.finding (remark "a" "one" 2)] = .ok r ∧
      coveragePlan hiddenChurn [] 2 = .ok p ∧
      ¬ ∃ p', coveragePlan hiddenChurn r.findings 2 = .ok p' := by
  have hr : supplement [] [.finding (remark "a" "one" 2)] =
      .ok (.ofOutcomes [] [.added (remark "a" "one" 2)]) := by
    decide +kernel
  have hfirst : IsPlannable hiddenChurn [] 2 := by
    have hsorted : sortedFiles hiddenChurn [] =
        (uncoveredPaths hiddenChurn []).map (merged hiddenChurn) :=
      List.mergeSort_of_pairwise (by decide +kernel)
    rw [IsPlannable, plannedFiles_eq, hsorted]
    decide +kernel
  obtain ⟨p, hp⟩ := exists_coveragePlan_iff_isPlannable.mpr hfirst
  refine ⟨_, p, hr, hp, ?_⟩
  rw [exists_coveragePlan_iff_isPlannable]
  intro hplannable
  have hlong := hplannable _
    (merged_mem_plannedFiles "src/c.py" (by decide +kernel) (by decide +kernel))
  revert hlong
  decide +kernel

end Triage
