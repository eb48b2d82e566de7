import Triage.Proofs.Refinement.Cap

/-!
# Raising the limit

With a higher limit of inline comments a file may have as many or more, and a pass through the same
items keeps all that it kept before: where the lower limit still has room, the higher one has kept
the same (`capFrom_sublist_of_le`). Sorting fewer items by a linear order leaves them in the order
that they have among all of them (`mergeSort_sublist`). So what is shown under a limit is also shown
under a higher one, and in the same order unless a score is no number (`refine_withLimit_iff`); such
a score among what is shown keeps the others from being sorted (`not_sublist_with_doubtful`).
-/

namespace Triage

variable {drafts : List Draft} {index : DiffIndex} {files : List ChangedFile} {o : RefineOptions}

/-! ### Sorting fewer items -/

/-- In a sorted list, an item that comes in behind all that have to be in front of it. -/
theorem filter_append_cons {α : Type} {le : α → α → Bool} {front back : List α} {a : α}
    (hsorted : (front ++ a :: back).Pairwise fun a b => le a b = true)
    (hfront : ∀ b ∈ front, (!le a b) = true) :
    (front ++ back).filter (fun b => !le a b) = front ∧
      (front ++ back).filter (fun b => le a b) = back := by
  have hback : ∀ b ∈ back, le a b = true :=
    (List.pairwise_cons.mp (List.pairwise_append.mp hsorted).2.1).1
  simp only [Bool.not_eq_true'] at hfront
  constructor
  · have hnone : back.filter (fun b => !le a b) = [] := by
      rw [List.filter_eq_nil_iff]
      intro b hb
      simp [hback b hb]
    rw [List.filter_append, hnone, List.append_nil, List.filter_eq_self]
    intro b hb
    simp [hfront b hb]
  · have hnone : front.filter (fun b => le a b) = [] := by
      rw [List.filter_eq_nil_iff]
      intro b hb
      simp [hfront b hb]
    rw [List.filter_append, hnone, List.nil_append, List.filter_eq_self]
    exact hback

/-- Sorting fewer items leaves out the others and moves none. -/
theorem mergeSort_sublist {α : Type} {le : α → α → Bool}
    (htrans : ∀ a b c, le a b = true → le b c = true → le a c = true)
    (htotal : ∀ a b, (le a b || le b a) = true) {items more : List α}
    (h : items.Sublist more) : (items.mergeSort le).Sublist (more.mergeSort le) := by
  induction h with
  | slnil => exact List.Sublist.refl _
  | @cons items more a _ ih =>
    obtain ⟨front, back, hmore, hrest, -⟩ := List.mergeSort_cons htrans htotal a more
    rw [hmore]
    rw [hrest] at ih
    exact ih.middle a
  | @cons_cons items more a _ ih =>
    -- What is in front of the new item, and what is behind it, is told by the comparison with it.
    obtain ⟨front, back, hitems, hrest, hfront⟩ := List.mergeSort_cons htrans htotal a items
    obtain ⟨front', back', hmore, hrest', hfront'⟩ := List.mergeSort_cons htrans htotal a more
    have hsorted := List.pairwise_mergeSort htrans htotal (a :: items)
    have hsorted' := List.pairwise_mergeSort htrans htotal (a :: more)
    rw [hitems] at hsorted ⊢
    rw [hmore] at hsorted' ⊢
    obtain ⟨hf, hb⟩ := filter_append_cons hsorted hfront
    obtain ⟨hf', hb'⟩ := filter_append_cons hsorted' hfront'
    rw [hrest, hrest'] at ih
    have hfronts := ih.filter fun b => !le a b
    have hbacks := ih.filter fun b => le a b
    rw [hf, hf'] at hfronts
    rw [hb, hb'] at hbacks
    exact hfronts.append (hbacks.cons_cons a)

/-- Items with places are sorted by them. -/
theorem inOrder_eq_mergeSort {items : List Ranked} (hplaced : ∀ item ∈ items, item.IsPlaced) :
    inOrder items = items.mergeSort fun a b => a.place ≤ b.place := by
  have hmap := List.map_mergeSort (r := fun a b : Ranked => !b.isShownBefore a)
    (s := fun a b : Ranked => decide (a.place ≤ b.place)) (f := id) (l := items) ?_
  · rw [List.map_id, List.map_id] at hmap
    unfold inOrder sortRanked
    rw [if_pos (allRanked_iff.mpr hplaced), hmap]
  · intro a ha b hb
    rw [Bool.eq_iff_iff, Bool.not_eq_true', Bool.eq_false_iff, ne_eq,
      Ranked.isShownBefore_iff (hplaced b hb) (hplaced a ha), not_lt, decide_eq_true_iff]
    rfl

theorem inOrder_sublist {items more : List Ranked} (h : items.Sublist more)
    (hplaced : ∀ item ∈ more, item.IsPlaced) : (inOrder items).Sublist (inOrder more) := by
  rw [inOrder_eq_mergeSort hplaced,
    inOrder_eq_mergeSort fun item hitem => hplaced item (h.subset hitem)]
  apply mergeSort_sublist _ _ h
  · intro a b c hab hbc
    rw [decide_eq_true_iff] at hab hbc ⊢
    exact hab.trans hbc
  · intro a b
    rw [Bool.or_eq_true, decide_eq_true_iff, decide_eq_true_iff]
    exact le_total a.place b.place

/-! ### One pass under two limits -/

theorem maxInlinePerFile_mono {limit limit' : ℤ} (h : limit ≤ limit') :
    maxInlinePerFile limit ≤ maxInlinePerFile limit' := by
  unfold maxInlinePerFile
  omega

/-- What a pass keeps, one with a higher limit keeps as well. -/
theorem capFrom_sublist_of_le {limit limit' : ℕ} (hle : limit ≤ limit') (forcesSummary : Bool)
    {counts counts' : Tally}
    (hcounts : ∀ path, counts.count path < limit → counts'.count path = counts.count path)
    (items : List Ranked) :
    (capFrom limit forcesSummary counts items).kept.Sublist
      (capFrom limit' forcesSummary counts' items).kept := by
  -- The two tallies agree on every file that is not full under the lower limit.
  induction items generalizing counts counts' with
  | nil => exact List.Sublist.refl _
  | cons item rest ih =>
    have hcounts_meet : ∀ path, (counts.meet item.finding.path).count path < limit →
        (counts'.meet item.finding.path).count path =
          (counts.meet item.finding.path).count path := by
      intro path hroom
      rw [Tally.count_meet] at hroom
      rw [Tally.count_meet, Tally.count_meet, hcounts path (by omega)]
    unfold capFrom
    simp only
    split_ifs with hfree hfull hfull' hfull'
    · exact (ih hcounts).cons_cons item
    · exact ih hcounts
    · -- Only the higher limit has room: the file was full before, and is of no account.
      refine (ih ?_).cons item
      intro path hroom
      have hother : item.finding.path ≠ path := by
        rintro rfl
        omega
      rw [Tally.count_meet, if_neg hother, Nat.add_zero]
      exact hcounts path hroom
    · have hsame := hcounts item.finding.path (by omega)
      omega
    · exact (ih hcounts_meet).cons_cons item

/-! ### One refinement under two limits -/

/-- The choices with another limit of inline comments. -/
def RefineOptions.withLimit (o : RefineOptions) (limit : ℤ) : RefineOptions :=
  { o with maxInlineComments := limit }

/-- Whether the score of a finding is a number. -/
def Finding.IsScored (index : DiffIndex) (paths : List String) (o : RefineOptions) (f : Finding) :
    Prop :=
  ∃ score, f.score? index paths o = some score ∧ score.rank?.isSome = true

instance (index : DiffIndex) (paths : List String) (o : RefineOptions) (f : Finding) :
    Decidable (f.IsScored index paths o) :=
  decidable_of_iff ((f.score? index paths o).any (·.rank?.isSome) = true) <| by
    unfold Finding.IsScored
    simp [Option.any_eq_true]

/-- Whether one result shows nothing that another one does not show, apart from numbers behind ids
and keys, stands in the order of that one if the scores there are numbers, and counts the same but
for what is too much for the files. -/
structure Refined.IsWithin (index : DiffIndex) (paths : List String) (o : RefineOptions)
    (r r' : Refined) : Prop where
  shown : ∃ fs fs', List.Forall₂ Finding.IsNumbered fs r.findings ∧
    List.Forall₂ Finding.IsNumbered fs' r'.findings ∧ fs.Subperm fs' ∧
    ((∀ f ∈ r'.findings, f.IsScored index paths o) → fs.Sublist fs')
  counted : r'.diagnostics =
    { r.diagnostics with droppedPerFileCap := r'.diagnostics.droppedPerFileCap }

/-- The limit plays no part in the screening. -/
theorem areScreened_withLimit_iff {limit : ℤ} {outcomes : List Outcome} :
    AreScreened drafts index files (o.withLimit limit) outcomes ↔
      AreScreened drafts index files o outcomes :=
  Iff.rfl

theorem cappedOf_sublist {limit : ℤ} (h : o.maxInlineComments ≤ limit) (outcomes : List Outcome) :
    (cappedOf o outcomes).kept.Sublist (cappedOf (o.withLimit limit) outcomes).kept :=
  capFrom_sublist_of_le (maxInlinePerFile_mono h) o.forcesSummary (fun _ _ => rfl) _

/-- The findings that are shown are scored iff the items that they are shown for have places. -/
theorem forall_isScored_iff {outcomes : List Outcome}
    (h : AreScreened drafts index files o outcomes) :
    (∀ f ∈ (Refined.ofOutcomes o outcomes).findings, f.IsScored index (changedPaths files) o) ↔
      ∀ item ∈ shownItems o outcomes, item.IsPlaced := by
  have hline := forall₂_findings_ofOutcomes o outcomes
  constructor
  · intro hscored item hitem
    obtain ⟨f, hf, j, k, rfl⟩ := exists_mem_right hline hitem
    obtain ⟨score, hscore, hnumber⟩ := hscored _ hf
    have hsame := (isScreened_of_mem_shownItems h hitem).score.symm.trans hscore
    unfold Ranked.IsPlaced
    rwa [Option.some.inj hsame]
  · intro hplaced f hf
    obtain ⟨item, hitem, j, k, rfl⟩ := exists_mem_left hline hf
    exact ⟨item.score, (isScreened_of_mem_shownItems h hitem).score, hplaced item hitem⟩

/-- Under a higher limit, screened drafts show at least what they show under a lower one. -/
theorem isWithin_ofOutcomes {limit : ℤ} (hle : o.maxInlineComments ≤ limit)
    {outcomes : List Outcome} (h : AreScreened drafts index files o outcomes) :
    (Refined.ofOutcomes o outcomes).IsWithin index (changedPaths files) o
      (.ofOutcomes (o.withLimit limit) outcomes) where
  shown := by
    have hsublist := cappedOf_sublist hle outcomes
    have hlow := forall₂_suffixRepeats ((shownItems o outcomes).map Ranked.finding)
    have hhigh :=
      forall₂_suffixRepeats ((shownItems (o.withLimit limit) outcomes).map Ranked.finding)
    refine ⟨_, _, hlow, hhigh, ?_, ?_⟩
    · have hsubperm := (shownItems_perm o outcomes).subperm.trans
        (hsublist.subperm.trans (shownItems_perm (o.withLimit limit) outcomes).symm.subperm)
      obtain ⟨items, hperm, hitems⟩ := hsubperm
      exact ⟨items.map Ranked.finding, hperm.map _, hitems.map _⟩
    · intro hscored
      have hplaced := (forall_isScored_iff (areScreened_withLimit_iff.mpr h)).mp hscored
      apply List.Sublist.map
      apply inOrder_sublist hsublist
      intro item hitem
      exact hplaced item ((shownItems_perm _ outcomes).mem_iff.mpr hitem)
  counted := rfl

/-- Raising the limit loses no comment iff the drafts can be refined under both limits. -/
theorem refine_withLimit_iff {limit : ℤ} (hle : o.maxInlineComments ≤ limit)
    (drafts : List Draft) (index : DiffIndex) (files : List ChangedFile) :
    (∃ r r', refine drafts index files o = .ok r ∧
      refine drafts index files (o.withLimit limit) = .ok r' ∧
      r.IsWithin index (changedPaths files) o r') ↔
    IsRefinable drafts index files o ∧ IsRefinable drafts index files (o.withLimit limit) := by
  rw [← exists_refine_eq_ok_iff, ← exists_refine_eq_ok_iff]
  constructor
  · rintro ⟨r, r', hr, hr', -⟩
    exact ⟨⟨r, hr⟩, r', hr'⟩
  · rintro ⟨⟨r, hr⟩, r', hr'⟩
    refine ⟨r, r', hr, hr', ?_⟩
    obtain ⟨-, outcomes, houtcomes, rfl⟩ := refine_eq_ok_iff.mp hr
    obtain ⟨-, outcomes', houtcomes', rfl⟩ := refine_eq_ok_iff.mp hr'
    -- Both limits have the same outcomes.
    have hfirst := mapM_eq_ok_iff.mpr houtcomes
    have hsecond := mapM_eq_ok_iff.mpr (areScreened_withLimit_iff.mp houtcomes')
    obtain rfl : outcomes = outcomes' := Except.ok.inj (hfirst.symm.trans hsecond)
    exact isWithin_ofOutcomes hle houtcomes

/-- If the strongest items already stand in order, the cap meets them as they come. -/
theorem length_findings_of_ascends {outcomes : List Outcome}
    (h : Ascends Ranked.isStronger (strongestOf outcomes).kept) (o : RefineOptions) :
    (Refined.ofOutcomes o outcomes).findings.length =
      (capInline (maxInlinePerFile o.maxInlineComments) o.forcesSummary
        (strongestOf outcomes).kept).kept.length := by
  have hsorted : byScore (strongestOf outcomes).kept = (strongestOf outcomes).kept :=
    sortRanked_eq_self isRankOrder_isStronger h
  rw [← (forall₂_findings_ofOutcomes o outcomes).length_eq, (shownItems_perm o outcomes).length_eq,
    cappedOf, hsorted]

/-- Three remarks on the lines of one file, the strongest one in front. -/
def fallingRemarks : List Draft :=
  [.finding (remark "a" "one" 1), .finding { remark "b" "two" 2 with confidence := some .low },
    .finding { remark "c" "three" 3 with severity := .nit }]

/-- Of three remarks on one file two are shown, and with one place more all of them, in one
order. -/
theorem refine_withLimit_fallingRemarks :
    twoEach.maxInlineComments ≤ 9 ∧
    ∃ r r', refine fallingRemarks twoLines [] twoEach = .ok r ∧
      refine fallingRemarks twoLines [] (twoEach.withLimit 9) = .ok r' ∧
      r.IsWithin twoLines (changedPaths []) twoEach r' ∧
      r.findings.length = 2 ∧ r'.findings.length = 3 ∧
      ∀ f ∈ r'.findings, f.IsScored twoLines (changedPaths []) twoEach := by
  have hresult : (fallingRemarks.mapM (screen twoLines (changedPaths []) twoEach)).map
      (fun outcomes => (decide (Ascends Ranked.isStronger (strongestOf outcomes).kept),
        decide (∀ item ∈ (strongestOf outcomes).kept, item.IsPlaced),
        (capInline 2 false (strongestOf outcomes).kept).kept.length,
        (capInline 3 false (strongestOf outcomes).kept).kept.length)) =
      .ok (true, true, 2, 3) := by
    decide +kernel
  obtain ⟨outcomes, houtcomes, hfacts⟩ := exists_ok_of_map_eq_ok hresult
  simp only [Prod.mk.injEq, decide_eq_true_iff] at hfacts
  obtain ⟨hascends, hplaced, htwo, hthree⟩ := hfacts
  have hscreened := mapM_eq_ok_iff.mp houtcomes
  have hr : refine fallingRemarks twoLines [] twoEach = .ok (.ofOutcomes twoEach outcomes) :=
    refine_eq_ok_iff.mpr ⟨by decide +kernel, outcomes, hscreened, rfl⟩
  have hr' : refine fallingRemarks twoLines [] (twoEach.withLimit 9) =
      .ok (.ofOutcomes (twoEach.withLimit 9) outcomes) :=
    refine_eq_ok_iff.mpr ⟨by decide +kernel, outcomes, hscreened, rfl⟩
  have hle : twoEach.maxInlineComments ≤ 9 := by decide
  obtain ⟨s, s', hs, hs', hwithin⟩ := (refine_withLimit_iff hle fallingRemarks twoLines []).mpr
    ⟨exists_refine_eq_ok_iff.mp ⟨_, hr⟩, exists_refine_eq_ok_iff.mp ⟨_, hr'⟩⟩
  obtain rfl := Except.ok.inj (hs.symm.trans hr)
  obtain rfl := Except.ok.inj (hs'.symm.trans hr')
  refine ⟨hle, _, _, hr, hr', hwithin, ?_, ?_, ?_⟩
  · rw [length_findings_of_ascends hascends]
    exact htwo
  · rw [length_findings_of_ascends hascends]
    exact hthree
  · refine (forall_isScored_iff (areScreened_withLimit_iff.mpr hscreened)).mpr ?_
    intro item hitem
    exact hplaced item ((shownItems_subperm_strongestOf _ outcomes).subset hitem)

/-- Two remarks that fill a file that may have two, the first one of high confidence, a nit, another
one of high confidence on that file, and one that is stronger than the nit. -/
def crossedRemarks : List Draft :=
  [.finding { remark "a" "one" 1 with confidence := some .high }, .finding (remark "b" "two" 2),
    .finding { remark "c" "three" 1 with path := "src/b.py", severity := .nit },
    .finding { remark "d" "four" 3 with confidence := some .high },
    .finding { remark "e" "five" 1 with path := "src/c.py" }]

/-- If the weight of high confidence is no number, a remark that a higher limit lets in turns two
others round; and with a limit that is beyond all doubles, there is no result. -/
theorem not_sublist_with_doubtful :
    (doubtful.maxInlineComments ≤ 9 ∧
      ∃ r r', refine crossedRemarks twoLines [] doubtful = .ok r ∧
        refine crossedRemarks twoLines [] (doubtful.withLimit 9) = .ok r' ∧
        ¬ (r.findings.map Finding.anonymous).Sublist (r'.findings.map Finding.anonymous)) ∧
    (RefineOptions.default.maxInlineComments ≤ hugeLimit.maxInlineComments ∧
      (∃ r, refine [] .empty [] .default = .ok r) ∧
      ∃ e, refine [] .empty []
        (RefineOptions.default.withLimit hugeLimit.maxInlineComments) = .error e) := by
  have hlow : (refine crossedRemarks twoLines [] doubtful).map
      (fun r => r.findings.map Finding.title) = .ok ["one", "two", "five", "three"] := by
    decide +kernel
  have hhigh : (refine crossedRemarks twoLines [] (doubtful.withLimit 9)).map
      (fun r => r.findings.map Finding.title) = .ok ["one", "two", "three", "four", "five"] := by
    decide +kernel
  have hnone : IsRefinable [] .empty [] .default := ⟨by simp, by decide +kernel⟩
  have hhuge : refine [] .empty [] hugeLimit = .error .beyondDoubles := by
    decide +kernel
  obtain ⟨r, hr, htitles⟩ := exists_ok_of_map_eq_ok hlow
  obtain ⟨r', hr', htitles'⟩ := exists_ok_of_map_eq_ok hhigh
  refine ⟨⟨by decide, r, r', hr, hr', fun hsublist => ?_⟩, by decide +kernel,
    exists_refine_eq_ok_iff.mpr hnone, _, hhuge⟩
  have hshown := hsublist.map Finding.title
  have htitle : Finding.title ∘ Finding.anonymous = Finding.title := rfl
  rw [List.map_map, List.map_map, htitle, htitles, htitles'] at hshown
  revert hshown
  decide

end Triage
