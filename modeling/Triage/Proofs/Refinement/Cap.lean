import Triage.Proofs.Refinement.Presentation

/-!
# The cap of a file

The cap goes through the items by score, so that an item is dropped only if its file is full, and
full of items that stood in front of it (`mem_capFrom_or`). Hence a file has at most its share of
inline comments, has all of it if one was dropped, and under scores that are numbers none of those
that stayed has a lower score than one that was dropped (`capped_of_refine`). A score that is no
number may stand anywhere among the others, and then a strong item may come behind weak ones
(`not_weakest_without_number`).
-/

namespace Triage

variable {drafts : List Draft} {index : DiffIndex} {files : List ChangedFile} {o : RefineOptions}

/-! ### One pass -/

theorem Ranked.isInlineOn_path {item : Ranked} (h : item.finding.isSummary = false) :
    item.isInlineOn item.finding.path = true := by
  unfold isInlineOn
  simp [h]

theorem Ranked.isInlineOn_eq_false_of_summary {item : Ranked} (h : item.finding.isSummary = true)
    (path : String) : item.isInlineOn path = false := by
  unfold isInlineOn
  simp [h]

/-- An item is kept, or it is an inline one whose file was filled by items in front of it. -/
theorem mem_capFrom_or (limit : ℕ) (forcesSummary : Bool) {R : Ranked → Ranked → Prop}
    (counts : Tally) {items : List Ranked} (hsorted : items.Pairwise R) {item : Ranked}
    (hitem : item ∈ items) :
    item ∈ (capFrom limit forcesSummary counts items).kept ∨
      forcesSummary = false ∧ item.finding.isSummary = false ∧
        (capFrom limit forcesSummary counts items).kept.countP
          (Ranked.isInlineOn item.finding.path) = limit - counts.count item.finding.path ∧
        ∀ other ∈ (capFrom limit forcesSummary counts items).kept,
          other.isInlineOn item.finding.path = true → R other item := by
  induction items generalizing counts with
  | nil => exact absurd hitem List.not_mem_nil
  | cons head rest ih =>
    obtain ⟨hhead, hrest⟩ := List.pairwise_cons.mp hsorted
    unfold capFrom
    simp only
    rcases List.mem_cons.mp hitem with rfl | hmem
    · split_ifs with hfree hfull
      · exact Or.inl (List.mem_cons_self ..)
      · -- Nothing more is kept of a file that is full already.
        rw [Bool.or_eq_true, not_or, Bool.not_eq_true, Bool.not_eq_true] at hfree
        have hcount : (capFrom limit forcesSummary counts rest).kept.countP
            (Ranked.isInlineOn item.finding.path) ≤ limit - counts.count item.finding.path :=
          countP_capFrom_le counts rest item.finding.path hfree.1
        have hzero : (capFrom limit forcesSummary counts rest).kept.countP
            (Ranked.isInlineOn item.finding.path) = 0 := by omega
        refine Or.inr ⟨hfree.1, hfree.2, ?_, ?_⟩
        · show (capFrom limit forcesSummary counts rest).kept.countP _ = _
          omega
        · intro other hother hinline
          exact absurd hinline (List.countP_eq_zero.mp hzero other hother)
      · exact Or.inl (List.mem_cons_self ..)
    · split_ifs with hfree hfull
      · rcases ih counts hrest hmem with hkept | ⟨hforces, hinline, hcount, hfront⟩
        · exact Or.inl (List.mem_cons_of_mem _ hkept)
        · -- The head is a comment in the summary, which fills no file.
          have hsummary : head.finding.isSummary = true := by simpa [hforces] using hfree
          have hnot := Ranked.isInlineOn_eq_false_of_summary hsummary item.finding.path
          refine Or.inr ⟨hforces, hinline, ?_, ?_⟩
          · rw [Selection.keep, List.countP_cons_of_neg (Bool.eq_false_iff.mp hnot)]
            exact hcount
          · intro other hother hon
            rcases List.mem_cons.mp hother with rfl | hother
            · exact absurd hon (Bool.eq_false_iff.mp hnot)
            · exact hfront other hother hon
      · exact ih counts hrest hmem
      · rcases ih (counts.meet head.finding.path) hrest hmem with
          hkept | ⟨hforces, hinline, hcount, hfront⟩
        · exact Or.inl (List.mem_cons_of_mem _ hkept)
        · refine Or.inr ⟨hforces, hinline, ?_, ?_⟩
          · -- The head takes one of the places of its file, and of no other one.
            have hsummary : head.finding.isSummary = false := by simpa [hforces] using hfree
            rw [Tally.count_meet] at hcount
            rw [Selection.keep, List.countP_cons, hcount]
            by_cases hpath : head.finding.path = item.finding.path
            · have hon := Ranked.isInlineOn_path hsummary
              rw [hpath] at hon hfull
              rw [if_pos hpath, if_pos hon]
              omega
            · have hoff : head.isInlineOn item.finding.path = false := by
                unfold Ranked.isInlineOn
                simp [hpath]
              rw [if_neg hpath, hoff, if_neg Bool.false_ne_true]
              omega
          · intro other hother hon
            rcases List.mem_cons.mp hother with rfl | hother
            · exact hhead item hmem
            · exact hfront other hother hon

/-! ### The survivors of a refinement -/

/-- Of the strongest items by score, none has a lower one than a later item, if all are numbers. -/
theorem pairwise_byScore (items : List Ranked) :
    (byScore items).Pairwise fun a b =>
      (∀ item ∈ items, item.IsPlaced) → b.score ≤ a.score := by
  by_cases hplaced : ∀ item ∈ items, item.IsPlaced
  · have hplaced' : ∀ item ∈ byScore items, item.IsPlaced := by
      intro item hitem
      exact hplaced item ((sortRanked_perm Ranked.isStronger items).mem_iff.mp hitem)
    have hascends : Ascends Ranked.isStronger (byScore items) :=
      ascends_sortRanked isRankOrder_isStronger items
    refine (hascends.pairwise isRankOrder_isStronger hplaced').imp_of_mem ?_
    intro a b ha hb hab _
    rw [Bool.not_eq_true'] at hab
    exact (Ranked.isStronger_eq_false_iff (hplaced' b hb) (hplaced' a ha)).mp hab
  · exact List.pairwise_of_forall fun a b h => absurd h hplaced

/-- A survivor is shown, or it is an inline one whose file is full of items as strong. -/
theorem mem_shownItems_or (o : RefineOptions) {outcomes : List Outcome} {item : Ranked}
    (hitem : item ∈ (strongestOf outcomes).kept) :
    item ∈ shownItems o outcomes ∨
      item.finding.isSummary = false ∧
        (shownItems o outcomes).countP (Ranked.isInlineOn item.finding.path) =
          maxInlinePerFile o.maxInlineComments ∧
        ((∀ other ∈ (strongestOf outcomes).kept, other.IsPlaced) →
          ∀ other ∈ shownItems o outcomes, other.isInlineOn item.finding.path = true →
            item.score ≤ other.score) := by
  have hperm := shownItems_perm o outcomes
  have hsorted := pairwise_byScore (strongestOf outcomes).kept
  have hmem : item ∈ byScore (strongestOf outcomes).kept :=
    (sortRanked_perm Ranked.isStronger _).mem_iff.mpr hitem
  rcases mem_capFrom_or (maxInlinePerFile o.maxInlineComments) o.forcesSummary .empty hsorted
    hmem with hkept | ⟨-, hinline, hcount, hfront⟩
  · exact Or.inl (hperm.mem_iff.mpr hkept)
  · refine Or.inr ⟨hinline, ?_, ?_⟩
    · rw [hperm.countP_eq]
      exact hcount
    · intro hplaced other hother hon
      exact hfront other (hperm.mem_iff.mp hother) hon hplaced

/-- Whether a finding is an inline comment on a file. -/
def Finding.isInlineOn (path : String) (f : Finding) : Bool :=
  !f.isSummary && f.path = path

/-- Whether a finding has a score that is at most that of another one. -/
def Finding.ScoresAtMost (index : DiffIndex) (paths : List String) (o : RefineOptions)
    (f g : Finding) : Prop :=
  ∃ x y, f.score? index paths o = some x ∧ g.score? index paths o = some y ∧ x ≤ y

/-- Whether an item is shown, with some number behind its id and its key. -/
def Refined.Shows (r : Refined) (item : Ranked) : Prop :=
  ∃ f ∈ r.findings, item.finding.IsNumbered f

/-- Whether a result shows no more inline comments of a file than its share, and drops no others
than inline ones of files that are full. -/
structure Refined.IsCapped (o : RefineOptions) (survivors : List Ranked) (r : Refined) : Prop where
  bound : ∀ path, r.findings.countP (Finding.isInlineOn path) ≤ maxInlinePerFile o.maxInlineComments
  full : ∀ item ∈ survivors, ¬ r.Shows item → item.finding.commentType = .inline ∧
    r.findings.countP (Finding.isInlineOn item.finding.path) = maxInlinePerFile o.maxInlineComments
  counted : r.findings.length + r.diagnostics.droppedPerFileCap = survivors.length

/-- Whether the inline comments of a file that are shown score as high as those that are not. -/
def Refined.DropsWeakest (index : DiffIndex) (paths : List String) (o : RefineOptions)
    (survivors : List Ranked) (r : Refined) : Prop :=
  ∀ item ∈ survivors, ¬ r.Shows item →
    ∀ f ∈ r.findings, f.isInlineOn item.finding.path = true →
      item.finding.ScoresAtMost index paths o f

theorem countP_findings_ofOutcomes (o : RefineOptions) (outcomes : List Outcome) (path : String) :
    (Refined.ofOutcomes o outcomes).findings.countP (Finding.isInlineOn path) =
      (shownItems o outcomes).countP (Ranked.isInlineOn path) := by
  have hmap := map_findings_ofOutcomes (g := Finding.isInlineOn path) (fun _ => rfl) o outcomes
  have hcount := congrArg (List.countP id) hmap
  rwa [List.countP_map, List.countP_map] at hcount

theorem shows_of_mem_shownItems {outcomes : List Outcome} {item : Ranked}
    (h : item ∈ shownItems o outcomes) : (Refined.ofOutcomes o outcomes).Shows item :=
  exists_mem_right (forall₂_findings_ofOutcomes o outcomes) h

/-- No file has more inline comments than its share; if all go into the summary, it has none. -/
theorem countP_shownItems_le {outcomes : List Outcome}
    (h : AreScreened drafts index files o outcomes) (path : String) :
    (shownItems o outcomes).countP (Ranked.isInlineOn path) ≤
      maxInlinePerFile o.maxInlineComments := by
  cases hforces : o.forcesSummary with
  | false => exact (areSettled_shownItems o outcomes).limited hforces path
  | true =>
    have hzero : (shownItems o outcomes).countP (Ranked.isInlineOn path) = 0 := by
      rw [List.countP_eq_zero]
      intro item hitem
      have hleaves := (isScreened_of_mem_shownItems h hitem).settled.leaves
      unfold Finding.leavesLine at hleaves
      rw [Bool.not_eq_true]
      exact Ranked.isInlineOn_eq_false_of_summary (by simpa [hforces] using hleaves) path
    omega

theorem isCapped_ofOutcomes {outcomes : List Outcome}
    (h : AreScreened drafts index files o outcomes) :
    (Refined.ofOutcomes o outcomes).IsCapped o (strongestOf outcomes).kept where
  bound := by
    intro path
    rw [countP_findings_ofOutcomes]
    exact countP_shownItems_le h path
  full := by
    intro item hitem hnot
    rcases mem_shownItems_or o hitem with hshown | ⟨hinline, hcount, -⟩
    · exact absurd (shows_of_mem_shownItems hshown) hnot
    · rw [countP_findings_ofOutcomes]
      exact ⟨Finding.commentType_eq_inline hinline, hcount⟩
  counted := by
    have hfindings := (forall₂_findings_ofOutcomes o outcomes).length_eq
    have hshown := length_shownItems o outcomes
    have hstrongest : (strongestOf outcomes).kept.length + (strongestOf outcomes).dropped =
        (outcomes.filterMap Outcome.item?).length := length_keepStrongest _
    show _ + (cappedOf o outcomes).dropped = _
    omega

theorem dropsWeakest_ofOutcomes {outcomes : List Outcome}
    (h : AreScreened drafts index files o outcomes)
    (hplaced : ∀ item ∈ (strongestOf outcomes).kept, item.IsPlaced) :
    (Refined.ofOutcomes o outcomes).DropsWeakest index (changedPaths files) o
      (strongestOf outcomes).kept := by
  intro item hitem hnot f hf hon
  rcases mem_shownItems_or o hitem with hshown | ⟨-, -, hweakest⟩
  · exact absurd (shows_of_mem_shownItems hshown) hnot
  · -- The score of what is shown is that of the item, whatever numbers are behind its id and key.
    obtain ⟨other, hother, j, k, rfl⟩ := exists_mem_left (forall₂_findings_ofOutcomes o outcomes) hf
    have hkept : item ∈ outcomes.filterMap Outcome.item? :=
      (keepStrongest_subperm _).subset hitem
    obtain ⟨-, -, -, -, -, hscreened⟩ := exists_draft_of_mem h hkept
    exact ⟨item.score, other.score, hscreened.score,
      (isScreened_of_mem_shownItems h hother).score, hweakest hplaced other hother hon⟩

/-- The cap leaves each file its share of inline comments and drops nothing else than inline
comments of files that have it; if all scores are numbers, these are the weakest ones. -/
theorem capped_of_refine {r : Refined} (h : refine drafts index files o = .ok r) :
    ∃ outcomes, drafts.mapM (screen index (changedPaths files) o) = .ok outcomes ∧
      r.IsCapped o (strongestOf outcomes).kept ∧
      ((∀ item ∈ (strongestOf outcomes).kept, item.score.rank?.isSome = true) →
        r.DropsWeakest index (changedPaths files) o (strongestOf outcomes).kept) := by
  obtain ⟨-, outcomes, houtcomes, rfl⟩ := refine_eq_ok_iff.mp h
  exact ⟨outcomes, mapM_eq_ok_iff.mpr houtcomes, isCapped_ofOutcomes houtcomes,
    dropsWeakest_ofOutcomes houtcomes⟩

/-- Options by which a file may have two inline comments. -/
def twoEach : RefineOptions :=
  { RefineOptions.default with maxInlineComments := 6 }

/-- Three remarks on the lines of one file, the weakest one in front. -/
def threeRemarks : List Draft :=
  [.finding { remark "a" "one" 1 with severity := .nit }, .finding (remark "b" "two" 2),
    .finding (remark "c" "three" 3)]

/-- Of three remarks on one file, at least one is dropped, and none that is weaker stays. -/
theorem capped_of_threeRemarks :
    ∃ r outcomes, refine threeRemarks twoLines [] twoEach = .ok r ∧
      threeRemarks.mapM (screen twoLines (changedPaths []) twoEach) = .ok outcomes ∧
      (∀ item ∈ (strongestOf outcomes).kept, item.score.rank?.isSome = true) ∧
      r.IsCapped twoEach (strongestOf outcomes).kept ∧
      r.DropsWeakest twoLines (changedPaths []) twoEach (strongestOf outcomes).kept ∧
      0 < r.diagnostics.droppedPerFileCap := by
  have hresult : (threeRemarks.mapM (screen twoLines (changedPaths []) twoEach)).map
      (fun outcomes => ((strongestOf outcomes).kept.length,
        (strongestOf outcomes).kept.all fun item =>
          item.score.rank?.isSome && item.isInlineOn "src/a.py")) = .ok (3, true) := by
    decide +kernel
  obtain ⟨outcomes, houtcomes, hsurvivors⟩ := exists_ok_of_map_eq_ok hresult
  obtain ⟨hthree, hall⟩ := Prod.mk.inj hsurvivors
  simp only [List.all_eq_true, Bool.and_eq_true] at hall
  have hr : refine threeRemarks twoLines [] twoEach = .ok (.ofOutcomes twoEach outcomes) :=
    refine_eq_ok_iff.mpr ⟨by decide +kernel, outcomes, mapM_eq_ok_iff.mp houtcomes, rfl⟩
  obtain ⟨others, hothers, hcapped, hweakest⟩ := capped_of_refine hr
  obtain rfl : others = outcomes := Except.ok.inj (hothers.symm.trans houtcomes)
  refine ⟨_, others, hr, houtcomes, fun item hitem => (hall item hitem).1, hcapped,
    hweakest fun item hitem => (hall item hitem).1, ?_⟩
  -- All that is shown is inline on the file, which may have two of the three remarks.
  have hinline : (shownItems twoEach others).countP (Ranked.isInlineOn "src/a.py") =
      (shownItems twoEach others).length := by
    rw [List.countP_eq_length]
    intro item hitem
    exact (hall item ((shownItems_subperm_strongestOf twoEach others).subset hitem)).2
  have hlength := (forall₂_findings_ofOutcomes twoEach others).length_eq
  have hbound := hcapped.bound "src/a.py"
  have hcounted := hcapped.counted
  rw [countP_findings_ofOutcomes, show maxInlinePerFile twoEach.maxInlineComments = 2 from rfl]
    at hbound
  omega

/-- Options by which a file may have two inline comments, and high confidence has a weight that is
no number. -/
def doubtful : RefineOptions :=
  { twoEach with
    weights := { Weights.default with
      confidence := fun c =>
        if c = .high then .real (.nan false) else Weights.default.confidence c } }

/-- Remarks on one file, and one of high confidence on another file behind the weakest of them. -/
def doubtfulRemarks : List Draft :=
  [.finding { remark "a" "one" 1 with severity := .nit },
    .finding { remark "b" "two" 2 with path := "src/b.py", confidence := some .high },
    .finding (remark "c" "three" 2), .finding (remark "d" "four" 3)]

/-- A score that is no number keeps the others from being sorted, and so a strong remark is dropped
while a weak one on its file is shown. -/
theorem not_weakest_without_number :
    ∃ r outcomes, refine doubtfulRemarks twoLines [] doubtful = .ok r ∧
      doubtfulRemarks.mapM (screen twoLines (changedPaths []) doubtful) = .ok outcomes ∧
      ¬ r.DropsWeakest twoLines (changedPaths []) doubtful (strongestOf outcomes).kept := by
  have hresult : (doubtfulRemarks.mapM (screen twoLines (changedPaths []) doubtful)).map
      (fun outcomes => ((strongestOf outcomes).kept.map Ranked.finding,
        (Refined.ofOutcomes doubtful outcomes).findings)) =
      .ok ([{ remark "a" "one" 1 with severity := .nit },
          { remark "b" "two" 2 with
            path := "src/b.py", confidence := some .high, commentType := .summary },
          remark "c" "three" 2, remark "d" "four" 3],
        [{ remark "a" "one" 1 with severity := .nit },
          { remark "b" "two" 2 with
            path := "src/b.py", confidence := some .high, commentType := .summary },
          remark "c" "three" 2]) := by
    decide +kernel
  obtain ⟨outcomes, houtcomes, hlists⟩ := exists_ok_of_map_eq_ok hresult
  obtain ⟨hsurvivors, hfindings⟩ := Prod.mk.inj hlists
  have hr : refine doubtfulRemarks twoLines [] doubtful = .ok (.ofOutcomes doubtful outcomes) :=
    refine_eq_ok_iff.mpr ⟨by decide +kernel, outcomes, mapM_eq_ok_iff.mp houtcomes, rfl⟩
  refine ⟨_, outcomes, hr, houtcomes, fun hdrops => ?_⟩
  obtain ⟨item, hitem, hstrong⟩ : ∃ item ∈ (strongestOf outcomes).kept,
      item.finding = remark "d" "four" 3 := by
    rw [← List.mem_map, hsurvivors]
    simp
  have hnot : ¬ (Refined.ofOutcomes doubtful outcomes).Shows item := by
    have htitles : ∀ f ∈ (Refined.ofOutcomes doubtful outcomes).findings, f.title ≠ "four" := by
      rw [hfindings]
      decide
    rintro ⟨f, hf, j, k, rfl⟩
    exact htitles _ hf (congrArg Finding.title hstrong)
  have hweak : ({ remark "a" "one" 1 with severity := .nit } : Finding) ∈
      (Refined.ofOutcomes doubtful outcomes).findings := by
    rw [hfindings]
    exact List.mem_cons_self ..
  obtain ⟨x, y, hx, hy, hle⟩ := hdrops item hitem hnot _ hweak (by rw [hstrong]; decide)
  -- The dropped remark has the score of an important bug, and the one that is shown that of a nit.
  have hscores : ((remark "d" "four" 3).score? twoLines (changedPaths []) doubtful).bind (fun x =>
      (({ remark "a" "one" 1 with severity := .nit } : Finding).score? twoLines (changedPaths [])
        doubtful).map fun y => decide (x ≤ y)) = some false := by
    decide +kernel
  rw [← hstrong, hx, Option.bind_some, hy, Option.map_some, Option.some.injEq,
    decide_eq_false_iff_not] at hscores
  exact hscores hle

end Triage
