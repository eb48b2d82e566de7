import Triage.Proofs.Supplement.Extension

/-!
# Supplementing twice

What a supplement gives says all that its drafts had to say: what was added is in it, and so is what
each duplicate echoed. The same drafts therefore add nothing to it (`supplement_supplement`), and
each of them is judged as before, or as a duplicate if it was added (`AreJudged.again`).
-/

namespace Triage

variable {base said all : List Finding} {draft : Draft} {drafts supplemental : List Draft}
  {outcome : SupplementOutcome} {outcomes : List SupplementOutcome}

/-- What becomes of a draft that was judged before. -/
def SupplementOutcome.again : SupplementOutcome → SupplementOutcome
  | added _ => duplicate
  | outcome => outcome

theorem SupplementOutcome.finding?_again (outcome : SupplementOutcome) :
    outcome.again.finding? = none := by
  cases outcome with
  | added f => rfl
  | _ => rfl

theorem additions_map_again (outcomes : List SupplementOutcome) :
    additions (outcomes.map SupplementOutcome.again) = [] := by
  rw [List.filterMap_eq_nil_iff]
  intro outcome houtcome
  obtain ⟨first, -, rfl⟩ := List.mem_map.mp houtcome
  exact first.finding?_again

/-! ### Judging again -/

/-- A draft is judged again by findings that say what was said before it, and what it said. -/
theorem JudgedAs.again (h : JudgedAs said draft outcome)
    (hall : ∀ g ∈ said ++ outcome.finding?.toList, ∃ g' ∈ all, g.IsNumbered g') :
    JudgedAs all draft outcome.again := by
  cases h with
  | invalid unreadable => exact .invalid unreadable
  | lowValue read minor => exact .lowValue read minor
  | duplicate read worthy known echo =>
    obtain ⟨g', hg', hnumbered⟩ := hall _ (List.mem_append_left _ known)
    exact .duplicate read worthy hg' (hnumbered.echoes_iff.mpr echo)
  | added read worthy fresh =>
    -- The draft echoes what it added the first time.
    obtain ⟨g', hg', hnumbered⟩ := hall _ (List.mem_append_right _ (List.mem_singleton_self _))
    exact .duplicate read worthy hg' (hnumbered.echoes_iff.mpr (Finding.echoes_self _))

theorem AreJudged.again (h : AreJudged said drafts outcomes)
    (hall : ∀ g ∈ said ++ additions outcomes, ∃ g' ∈ all, g.IsNumbered g') :
    AreJudged all drafts (outcomes.map SupplementOutcome.again) := by
  induction h with
  | nil => exact .nil
  | @cons said draft drafts outcome outcomes head _ ih =>
    rw [additions_cons, ← List.append_assoc] at hall
    rw [List.map_cons]
    refine .cons (head.again fun g hg => hall g (List.mem_append_left _ hg)) ?_
    -- Nothing is added, so all that is said stays the same.
    rw [outcome.finding?_again, Option.toList_none, List.append_nil]
    exact ih hall

/-! ### Counting again -/

theorem count_duplicate_map_again (outcomes : List SupplementOutcome) :
    (outcomes.map SupplementOutcome.again).count .duplicate =
      (additions outcomes).length + outcomes.count .duplicate := by
  induction outcomes with
  | nil => rfl
  | cons outcome rest ih =>
    rw [List.map_cons, List.count_cons, ih, additions_cons, List.length_append, List.count_cons]
    cases outcome with
    | added f => simp [SupplementOutcome.again, SupplementOutcome.finding?]; omega
    | duplicate => simp [SupplementOutcome.again, SupplementOutcome.finding?]; omega
    | _ => simp [SupplementOutcome.again, SupplementOutcome.finding?]

/-- Outcomes other than duplicates are those of drafts that were not added the first time. -/
theorem count_map_again {outcome : SupplementOutcome} (hagain : outcome.again = outcome)
    (hother : outcome ≠ .duplicate) (outcomes : List SupplementOutcome) :
    (outcomes.map SupplementOutcome.again).count outcome = outcomes.count outcome := by
  rw [List.count_eq_countP, List.count_eq_countP, List.countP_map]
  apply List.countP_congr
  intro first _
  simp only [Function.comp_apply, beq_iff_eq]
  cases first with
  | added f =>
    constructor
    · intro h
      exact absurd h.symm hother
    · rintro rfl
      exact absurd hagain (by simp [SupplementOutcome.again])
  | _ => exact Iff.rfl

/-! ### Supplementing again -/

/-- Supplementing the result of a supplement with the same drafts adds nothing, and changes nothing
but the numbers of repeats. -/
theorem supplement_supplement {r : Supplemented} (h : supplement base supplemental = .ok r) :
    ∃ again, supplement r.findings supplemental = .ok again ∧ again.added = 0 ∧
      again.droppedLowValue = r.droppedLowValue ∧ again.droppedInvalid = r.droppedInvalid ∧
      again.droppedDuplicates = r.added + r.droppedDuplicates ∧
      List.Forall₂ Finding.IsNumbered r.findings again.findings ∧
      ((r.findings.map Finding.id).Nodup → (r.findings.map Finding.key).Nodup →
        again.findings = r.findings) := by
  obtain ⟨hids, outcomes, hjudged, rfl⟩ := supplement_eq_ok_iff_areJudged.mp h
  have hagain := hjudged.again fun g hg => exists_mem_right (forall₂_suffixRepeats _) hg
  refine ⟨_, supplement_eq_ok_iff_areJudged.mpr ⟨hids, _, hagain, rfl⟩, ?_⟩
  unfold Supplemented.ofOutcomes
  simp only [additions_map_again, List.append_nil, List.length_nil]
  refine ⟨trivial, count_map_again rfl (by simp) outcomes, count_map_again rfl (by simp) outcomes,
    count_duplicate_map_again outcomes, forall₂_suffixRepeats _, ?_⟩
  intro hidsNodup hkeysNodup
  exact suffixRepeats_eq_self hidsNodup hkeysNodup

/-- A second pass over one remark: it has something new with an id that is taken, an echo of the
first remark, a nit of style, and what is no finding. -/
def secondPass : List Draft :=
  [.finding (remark "a" "two" 2), .finding (remark "b" "One!" 9),
    .finding { remark "c" "three" 3 with severity := .nit, category := .style }, .document .null]

/-- What was new the first time is a duplicate the second time. -/
theorem supplement_supplement_secondPass :
    ∃ r again, supplement [remark "a" "one" 1] secondPass = .ok r ∧
      supplement r.findings secondPass = .ok again ∧
      r.added = 1 ∧ r.droppedDuplicates = 1 ∧ again.added = 0 ∧ again.droppedDuplicates = 2 ∧
      again.findings = r.findings := by
  have hr : supplement [remark "a" "one" 1] secondPass =
      .ok (.ofOutcomes [remark "a" "one" 1]
        [.added (remark "a" "two" 2), .duplicate, .lowValue, .invalid]) := by
    decide +kernel
  obtain ⟨again, hagain, hadded, -, -, hduplicates, -, hsame⟩ := supplement_supplement hr
  have hids : ((suffixRepeats [remark "a" "one" 1, remark "a" "two" 2]).map Finding.id).Nodup := by
    decide +kernel
  have hkeys : ((suffixRepeats [remark "a" "one" 1, remark "a" "two" 2]).map
      Finding.key).Nodup := by
    decide +kernel
  exact ⟨_, again, hr, hagain, rfl, rfl, hadded, hduplicates, hsame hids hkeys⟩

end Triage
