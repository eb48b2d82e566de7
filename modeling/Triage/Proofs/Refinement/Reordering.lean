import Triage.Proofs.Refinement.Cap
import Triage.Proofs.Refinement.Strongest

/-!
# Refinements of reordered drafts

The order of the drafts decides between items with one score only, and that of the changed files
nothing at all. So drafts in another order have the same outcomes in another order, and as many
groups that say the same; if the scores are numbers and no two of them are equal, the whole result
is the same (`refine_reordered`). A score that is no number is equal to no other one, but it lets
the items around it stand in the order of the drafts (`not_same_order_with_doubtful`).
-/

namespace Triage

variable {drafts drafts' : List Draft} {index : DiffIndex} {files files' : List ChangedFile}
  {o : RefineOptions}

/-! ### Screening -/

/-- Screening asks of the changed paths only which they are. -/
theorem screen_congr {paths paths' : List String} (h : ∀ path, path ∈ paths ↔ path ∈ paths') :
    screen index paths o = screen index paths' o := by
  have hscore : Finding.score? index paths o = Finding.score? index paths' o := by
    funext f
    unfold Finding.score?
    simp only [h]
  funext d
  unfold screen screenCanonical rank
  rw [hscore]

theorem changedPaths_perm (h : files.Perm files') :
    (changedPaths files).Perm (changedPaths files') :=
  (h.map _).filter _

/-- Reordered drafts have their outcomes in another order. -/
theorem AreScreened.exists_perm {outcomes : List Outcome}
    (h : AreScreened drafts index files o outcomes) (hdrafts : drafts.Perm drafts')
    (hfiles : files.Perm files') :
    ∃ outcomes', AreScreened drafts' index files' o outcomes' ∧ outcomes'.Perm outcomes := by
  unfold AreScreened at h ⊢
  rw [← screen_congr fun path => (changedPaths_perm hfiles).mem_iff]
  exact List.perm_comp_forall₂ hdrafts.symm h

/-! ### Distinct scores -/

/-- Whether the scores of some items are numbers, and no two of them are equal. -/
structure HaveDistinctScores (items : List Ranked) : Prop where
  numbers : ∀ item ∈ items, item.score.rank?.isSome = true
  uneven : items.Pairwise fun a b => a.isEven b = false

namespace HaveDistinctScores

variable {items others : List Ranked} {a b : Ranked}

theorem eq_of_isEven (h : HaveDistinctScores items) (ha : a ∈ items) (hb : b ∈ items)
    (heven : a.isEven b = true) : a = b := by
  have hsymm : Std.Symm fun a b : Ranked => a.isEven b = false :=
    ⟨fun a b hab => (Ranked.isEven_comm b a).trans hab⟩
  by_contra hne
  rw [h.uneven.forall ha hb hne] at heven
  exact Bool.false_ne_true heven

/-- Of two items neither of which is stronger, there is only one. -/
theorem eq_of_not_stronger (h : HaveDistinctScores items) (ha : a ∈ items) (hb : b ∈ items)
    (hab : a.score ≤ b.score) (hba : b.score ≤ a.score) : a = b := by
  have hplaced := h.numbers a ha
  have hplaced' := h.numbers b hb
  rw [Ranked.score_le_iff hplaced hplaced'] at hab
  rw [Ranked.score_le_iff hplaced' hplaced] at hba
  exact h.eq_of_isEven ha hb ((Ranked.isEven_iff hplaced hplaced').mpr (le_antisymm hba hab))

theorem perm (h : HaveDistinctScores items) (hperm : items.Perm others) :
    HaveDistinctScores others where
  numbers := fun item hitem => h.numbers item (hperm.mem_iff.mpr hitem)
  uneven := by
    refine (hperm.pairwise_iff ?_).mp h.uneven
    intro a b hab
    rw [Ranked.isEven_comm]
    exact hab

theorem subperm (h : HaveDistinctScores items) (hsub : others.Subperm items) :
    HaveDistinctScores others := by
  obtain ⟨kept, hperm, hsublist⟩ := hsub
  have hkept : HaveDistinctScores kept :=
    ⟨fun item hitem => h.numbers item (hsublist.subset hitem), h.uneven.sublist hsublist⟩
  exact hkept.perm hperm

end HaveDistinctScores

/-! ### The strongest items -/

/-- Under distinct scores, an item is kept iff none that says the same has a higher score. -/
theorem mem_keepStrongest_iff_of_distinct {items : List Ranked} (h : HaveDistinctScores items)
    {item : Ranked} :
    item ∈ (keepStrongest items).kept ↔
      item ∈ items ∧ ∀ other ∈ groupOf item.dedupeKey items, other.score ≤ item.score := by
  have hplaced : ∀ key, ∀ other ∈ groupOf key items, other.IsPlaced :=
    fun key other hother => h.numbers other (mem_groupOf.mp hother).1
  have hstrongest : ∀ known ∈ (keepStrongest items).kept,
      IsFirstStrongest (groupOf known.dedupeKey items) known := fun known hknown =>
    isFirstStrongest_of_survivor? (hplaced _) (mem_keepStrongest_iff.mp hknown)
  constructor
  · intro hitem
    have hfirst := hstrongest item hitem
    exact ⟨(mem_groupOf.mp hfirst.mem).1, fun other => hfirst.score_le (hplaced _)⟩
  · rintro ⟨hitem, hmax⟩
    -- The item that is kept for the group is as strong, and so it is the same.
    obtain ⟨known, hknown, hkey⟩ := exists_kept_of_mem hitem
    have hfirst := hstrongest known hknown
    rw [hkey] at hfirst
    have hle : item.score ≤ known.score :=
      hfirst.score_le (hplaced _) (mem_groupOf.mpr ⟨hitem, rfl⟩)
    have heq := h.eq_of_not_stronger hitem (mem_groupOf.mp hfirst.mem).1 hle
      (hmax known hfirst.mem)
    rwa [heq]

/-- Reordered items have as many groups. -/
theorem dropped_keepStrongest_eq_of_perm {items items' : List Ranked} (h : items.Perm items') :
    (keepStrongest items).dropped = (keepStrongest items').dropped := by
  have hkeys : (items.map Ranked.dedupeKey).eraseDups.Perm
      (items'.map Ranked.dedupeKey).eraseDups := by
    rw [List.perm_ext_iff_of_nodup (nodup_eraseDups _) (nodup_eraseDups _)]
    intro key
    rw [List.mem_eraseDups, List.mem_eraseDups, (h.map _).mem_iff]
  have hlen := hkeys.length_eq
  rw [← map_dedupeKey_keepStrongest, ← map_dedupeKey_keepStrongest, List.length_map,
    List.length_map] at hlen
  have hcounted := length_keepStrongest items
  have hcounted' := length_keepStrongest items'
  have htotal := h.length_eq
  omega

theorem kept_perm_of_perm {items items' : List Ranked} (h : HaveDistinctScores items)
    (hperm : items.Perm items') : (keepStrongest items).kept.Perm (keepStrongest items').kept := by
  rw [List.perm_ext_iff_of_nodup (nodup_kept items) (nodup_kept items')]
  intro item
  rw [mem_keepStrongest_iff_of_distinct h, mem_keepStrongest_iff_of_distinct (h.perm hperm)]
  simp only [mem_groupOf, hperm.mem_iff]

theorem HaveDistinctScores.pairwise_byScore {items : List Ranked} (h : HaveDistinctScores items) :
    (byScore items).Pairwise fun a b => b.score ≤ a.score :=
  (Triage.pairwise_byScore items).imp fun hle => hle h.numbers

/-- Items with distinct scores have one order. -/
theorem byScore_eq_of_perm {items items' : List Ranked} (h : HaveDistinctScores items)
    (hperm : items.Perm items') : byScore items = byScore items' := by
  have hmem : ∀ {item : Ranked}, item ∈ byScore items → item ∈ items :=
    fun hitem => (sortRanked_perm Ranked.isStronger items).mem_iff.mp hitem
  have hreordered : (byScore items).Perm (byScore items') :=
    ((sortRanked_perm Ranked.isStronger items).trans hperm).trans
      (sortRanked_perm Ranked.isStronger items').symm
  refine hreordered.eq_of_pairwise ?_ h.pairwise_byScore (h.perm hperm).pairwise_byScore
  intro a b ha hb hba hab
  exact h.eq_of_not_stronger (hmem ha) (hmem (hreordered.mem_iff.mpr hb)) hab hba

/-! ### The whole refinement -/

variable {outcomes outcomes' : List Outcome}

/-- Reordered outcomes with distinct scores give the same result. -/
theorem ofOutcomes_eq_of_perm (h : HaveDistinctScores (outcomes.filterMap Outcome.item?))
    (hperm : outcomes.Perm outcomes') :
    Refined.ofOutcomes o outcomes' = Refined.ofOutcomes o outcomes := by
  have hitems := hperm.filterMap Outcome.item?
  have hkept : (strongestOf outcomes).kept.Perm (strongestOf outcomes').kept :=
    kept_perm_of_perm h hitems
  have hsorted : byScore (strongestOf outcomes).kept = byScore (strongestOf outcomes').kept :=
    byScore_eq_of_perm (h.subperm (keepStrongest_subperm _)) hkept
  -- Behind the sorting, the two go the same way.
  have hcapped : cappedOf o outcomes' = cappedOf o outcomes := by
    unfold cappedOf
    rw [hsorted]
  have hrepeated : (strongestOf outcomes').dropped = (strongestOf outcomes).dropped :=
    (dropped_keepStrongest_eq_of_perm hitems).symm
  unfold Refined.ofOutcomes shownItems
  rw [hcapped, hrepeated]
  simp only [hperm.countP_eq]

/-- Reordered outcomes give the same counts, but for what is too much for the files. -/
theorem diagnostics_eq_of_perm (hperm : outcomes.Perm outcomes') :
    (Refined.ofOutcomes o outcomes').diagnostics =
      { (Refined.ofOutcomes o outcomes).diagnostics with
        droppedPerFileCap := (cappedOf o outcomes').dropped } := by
  have hrepeated : (strongestOf outcomes').dropped = (strongestOf outcomes).dropped :=
    (dropped_keepStrongest_eq_of_perm (hperm.filterMap Outcome.item?)).symm
  unfold Refined.ofOutcomes
  simp only [hperm.countP_eq, hrepeated]

/-- Reordered drafts and changed files either both give a result, with the same counts but for what
is too much for the files, and the very same result if the scores of what is not left out are
distinct numbers; or both meet a limit. -/
theorem refine_reordered (hdrafts : drafts.Perm drafts') (hfiles : files.Perm files')
    (index : DiffIndex) (o : RefineOptions) :
    (∃ r r' outcomes, refine drafts index files o = .ok r ∧
      refine drafts' index files' o = .ok r' ∧
      drafts.mapM (screen index (changedPaths files) o) = .ok outcomes ∧
      r'.diagnostics =
        { r.diagnostics with droppedPerFileCap := r'.diagnostics.droppedPerFileCap } ∧
      (HaveDistinctScores (outcomes.filterMap Outcome.item?) → r' = r)) ∨
    ∃ e e', refine drafts index files o = .error e ∧
      refine drafts' index files' o = .error e' := by
  cases hr : refine drafts index files o with
  | ok r =>
    obtain ⟨hshare, outcomes, houtcomes, rfl⟩ := refine_eq_ok_iff.mp hr
    obtain ⟨outcomes', houtcomes', hperm⟩ := houtcomes.exists_perm hdrafts hfiles
    have hr' : refine drafts' index files' o = .ok (.ofOutcomes o outcomes') :=
      refine_eq_ok_iff.mpr ⟨hshare, outcomes', houtcomes', rfl⟩
    exact Or.inl ⟨_, _, outcomes, rfl, hr', mapM_eq_ok_iff.mpr houtcomes,
      diagnostics_eq_of_perm hperm.symm, fun h => ofOutcomes_eq_of_perm h hperm.symm⟩
  | error e =>
    cases hr' : refine drafts' index files' o with
    | error e' => exact Or.inr ⟨e, e', rfl, rfl⟩
    | ok r' =>
      -- A result of the reordered drafts would be one of the drafts, in the order they came.
      obtain ⟨hshare, outcomes', houtcomes', -⟩ := refine_eq_ok_iff.mp hr'
      obtain ⟨outcomes, houtcomes, -⟩ := houtcomes'.exists_perm hdrafts.symm hfiles.symm
      rw [refine_eq_ok_iff.mpr ⟨hshare, outcomes, houtcomes, rfl⟩] at hr
      exact absurd hr (by simp)

/-- Remarks with distinct scores, two of which say the same. -/
def unevenRemarks : List Draft :=
  [.finding { remark "a" "one" 2 with severity := .nit }, .finding (remark "b" "one" 2),
    .finding { remark "c" "two" 3 with confidence := some .low }]

/-- Two changed files, one of which the remarks are about. -/
def twoFiles : List ChangedFile :=
  [⟨"src/b.py", none, none, none, none⟩, ⟨"./src/a.py", none, none, none, none⟩]

/-- Turned round, remarks with distinct scores give the same result. -/
theorem refine_reordered_unevenRemarks :
    unevenRemarks.Perm unevenRemarks.reverse ∧ twoFiles.Perm twoFiles.reverse ∧
    ∃ r, refine unevenRemarks twoLines twoFiles .default = .ok r ∧
      refine unevenRemarks.reverse twoLines twoFiles.reverse .default = .ok r ∧
      r.diagnostics.deduplicated = 1 := by
  have hresult : (unevenRemarks.mapM (screen twoLines (changedPaths twoFiles) .default)).map
      (fun outcomes => (decide (∀ item ∈ outcomes.filterMap Outcome.item?,
          item.score.rank?.isSome = true),
        decide ((outcomes.filterMap Outcome.item?).Pairwise fun a b => a.isEven b = false),
        (strongestOf outcomes).dropped)) = .ok (true, true, 1) := by
    decide +kernel
  obtain ⟨outcomes, houtcomes, hscores⟩ := exists_ok_of_map_eq_ok hresult
  simp only [Prod.mk.injEq, decide_eq_true_iff] at hscores
  obtain ⟨hnumbers, huneven, hrepeated⟩ := hscores
  have hr : refine unevenRemarks twoLines twoFiles .default = .ok (.ofOutcomes .default outcomes) :=
    refine_eq_ok_iff.mpr ⟨by decide +kernel, outcomes, mapM_eq_ok_iff.mp houtcomes, rfl⟩
  have hdrafts : unevenRemarks.Perm unevenRemarks.reverse := (List.reverse_perm _).symm
  have hfiles : twoFiles.Perm twoFiles.reverse := (List.reverse_perm _).symm
  refine ⟨hdrafts, hfiles, _, hr, ?_, hrepeated⟩
  rcases refine_reordered hdrafts hfiles twoLines .default with
    ⟨r, r', others, hfirst, hsecond, hothers, -, hsame⟩ | ⟨e, -, herror, -⟩
  · obtain rfl : others = outcomes := Except.ok.inj (hothers.symm.trans houtcomes)
    obtain rfl : r = _ := Except.ok.inj (hfirst.symm.trans hr)
    rw [hsecond, hsame ⟨hnumbers, huneven⟩]
  · rw [hr] at herror
    exact absurd herror (by simp)

/-- Two remarks, the first one of high confidence. -/
def twoRemarks : List Draft :=
  [.finding { remark "a" "one" 1 with confidence := some .high }, .finding (remark "b" "two" 2)]

/-- If the weight of high confidence is no number, two remarks without equal scores stay in the
order in which they came, whichever that is. -/
theorem not_same_order_with_doubtful :
    ∃ outcomes r r', twoRemarks.mapM (screen twoLines (changedPaths []) doubtful) = .ok outcomes ∧
      (outcomes.filterMap Outcome.item?).Pairwise (fun a b => a.isEven b = false) ∧
      refine twoRemarks twoLines [] doubtful = .ok r ∧
      refine twoRemarks.reverse twoLines [] doubtful = .ok r' ∧ r'.findings ≠ r.findings := by
  have hscores : (twoRemarks.mapM (screen twoLines (changedPaths []) doubtful)).map
      (fun outcomes => decide ((outcomes.filterMap Outcome.item?).Pairwise
        fun a b => a.isEven b = false)) = .ok true := by
    decide +kernel
  have hforth : (refine twoRemarks twoLines [] doubtful).map
      (fun r => r.findings.map Finding.title) = .ok ["one", "two"] := by
    decide +kernel
  have hback : (refine twoRemarks.reverse twoLines [] doubtful).map
      (fun r => r.findings.map Finding.title) = .ok ["two", "one"] := by
    decide +kernel
  obtain ⟨outcomes, houtcomes, huneven⟩ := exists_ok_of_map_eq_ok hscores
  obtain ⟨r, hr, htitles⟩ := exists_ok_of_map_eq_ok hforth
  obtain ⟨r', hr', htitles'⟩ := exists_ok_of_map_eq_ok hback
  refine ⟨outcomes, r, r', houtcomes, of_decide_eq_true huneven, hr, hr', fun hsame => ?_⟩
  rw [hsame, htitles] at htitles'
  exact absurd htitles' (by decide)

end Triage
