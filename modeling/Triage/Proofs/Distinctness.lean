import Triage.Proofs.Refinement.Accounting
import Triage.Supplement

/-!
# When ids and keys are distinct

Numbering makes the ids of findings distinct iff none of them reads like the numbered form of one
that is repeated, and so it does with keys. Refinements and supplements number what they give, so
their ids and keys are distinct in the same cases (`distinct_unless_mimicked`).
-/

namespace Triage

/-- Whether ids are distinct in a result iff those that went into it are unambiguous, and keys as
well. -/
structure AreDistinctUnlessMimicked (findings result : List Finding) : Prop where
  ids : (result.map Finding.id).Nodup ↔ IsUnambiguous (findings.map Finding.id)
  keys : (result.map Finding.key).Nodup ↔ IsUnambiguous (findings.map Finding.key)

theorem areDistinctUnlessMimicked_suffixRepeats (findings : List Finding) :
    AreDistinctUnlessMimicked findings (suffixRepeats findings) where
  ids := by rw [map_id_suffixRepeats, nodup_renumber_iff]
  keys := by rw [map_key_suffixRepeats, nodup_renumber_iff]

/-- A supplement numbers the findings of the first pass with those that the second one added. -/
theorem supplement_eq_ok_iff {base : List Finding} {supplemental : List Draft} {r : Supplemented} :
    supplement base supplemental = .ok r ↔
      ∃ outcomes, judgeAll (base.foldl DuplicateIndex.add .empty) supplemental = .ok outcomes ∧
        r = .ofOutcomes base outcomes := by
  unfold supplement
  cases judgeAll (base.foldl DuplicateIndex.add .empty) supplemental with
  | error e => simp [Except.map]
  | ok outcomes => simp [Except.map, eq_comm (b := r)]

/-- Findings that are numbered, refined or supplemented have distinct ids and distinct keys, unless
one of those that went into the numbering reads like the numbered form of a repeated one. -/
theorem distinct_unless_mimicked (findings base : List Finding) (drafts supplemental : List Draft)
    (index : DiffIndex) (files : List ChangedFile) (o : RefineOptions) :
    AreDistinctUnlessMimicked findings (suffixRepeats findings) ∧
    (∀ r, refine drafts index files o = .ok r →
      ∃ outcomes, drafts.mapM (screen index (changedPaths files) o) = .ok outcomes ∧
        AreDistinctUnlessMimicked ((shownItems o outcomes).map Ranked.finding) r.findings) ∧
    ∀ r, supplement base supplemental = .ok r →
      ∃ outcomes, judgeAll (base.foldl DuplicateIndex.add .empty) supplemental = .ok outcomes ∧
        AreDistinctUnlessMimicked (base ++ outcomes.filterMap SupplementOutcome.finding?)
          r.findings := by
  refine ⟨areDistinctUnlessMimicked_suffixRepeats findings, ?_, ?_⟩
  · intro r h
    obtain ⟨-, outcomes, houtcomes, rfl⟩ := refine_eq_ok_iff.mp h
    exact ⟨outcomes, mapM_eq_ok_iff.mpr houtcomes, areDistinctUnlessMimicked_suffixRepeats _⟩
  · intro r h
    obtain ⟨outcomes, houtcomes, rfl⟩ := supplement_eq_ok_iff.mp h
    exact ⟨outcomes, houtcomes, areDistinctUnlessMimicked_suffixRepeats _⟩

/-- The second remark with an id gets the id that the third one came with; so does one of a second
pass over remarks that were numbered before. -/
theorem not_nodup_of_mimicked :
    ¬ ((suffixRepeats [remark "a" "one" 1, remark "a" "two" 2, remark "a-2" "three" 3]).map
      Finding.id).Nodup ∧
    ∃ r, supplement [remark "a" "one" 1, remark "a-2" "two" 2] [.finding (remark "a" "three" 3)] =
      .ok r ∧ ¬ (r.findings.map Finding.id).Nodup := by
  constructor
  · rw [map_id_suffixRepeats, nodup_renumber_iff]
    intro h
    exact h "a" 2 (by decide) (by decide) (by decide)
  · refine ⟨.ofOutcomes [remark "a" "one" 1, remark "a-2" "two" 2]
      [.added (remark "a" "three" 3)], by decide +kernel, ?_⟩
    show ¬ ((suffixRepeats [remark "a" "one" 1, remark "a-2" "two" 2, remark "a" "three" 3]).map
      Finding.id).Nodup
    rw [map_id_suffixRepeats, nodup_renumber_iff]
    intro h
    exact h "a" 2 (by decide) (by decide) (by decide)

end Triage
