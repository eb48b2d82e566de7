import Triage.Proofs.Diff.Agreement
import Triage.Proofs.Matching.Classification
import Triage.Proofs.Refinement.Presentation

/-!
# Hashes of refined findings

A finding that a refinement leaves on its line has a line of the diff (`hasLine_of_mem_findings`),
and a line of the diff has both hashes. So a reconciliation against the same index gives hashes to
every finding on its line, whenever it gives a result (`hashes_of_refine_iff`).
-/

namespace Triage

variable {drafts : List Draft} {index : DiffIndex} {files : List ChangedFile} {o : RefineOptions}
  {findings : List Finding} {prior : List PriorFinding}

/-- A finding that a refinement leaves on its line has a line of the diff. -/
theorem hasLine_of_mem_findings {r : Refined} (h : refine drafts index files o = .ok r)
    {f : Finding} (hf : f ∈ r.findings) (hinline : f.commentType = .inline) :
    index.hasLine f.anchor = true := by
  obtain ⟨-, outcomes, houtcomes, rfl⟩ := refine_eq_ok_iff.mp h
  obtain ⟨item, hitem, j, k, rfl⟩ :=
    exists_mem_left (forall₂_findings_ofOutcomes o outcomes) hf
  exact ((isScreened_of_mem_shownItems houtcomes hitem).settled.stays hinline).2

/-- Whether a result has one match for each finding, in order, and both hashes of every finding on
its line. -/
structure Reconciliation.HashesInline (findings : List Finding) (r : Reconciliation) : Prop where
  finding : r.matched.map FindingMatch.finding = findings
  hunkHash : ∀ m ∈ r.matched, m.finding.commentType = .inline → m.hunkHash ≠ ""
  contextHash : ∀ m ∈ r.matched, m.finding.commentType = .inline → m.contextHash ≠ ""

/-- Findings whose lines are in the diff, as far as they are on their lines, get both hashes. -/
theorem hashesInline_ofMatches
    (h : ∀ f ∈ findings, f.commentType = .inline → index.hasLine f.anchor = true) :
    (Reconciliation.ofMatches (matchAll prior index [] findings) prior index).HashesInline
      findings where
  finding := map_finding_matchAll [] findings
  hunkHash := by
    intro m hm hinline
    obtain ⟨f, hf, before, rfl⟩ := exists_matchFinding hm
    exact (index.agrees f.anchor).hunkHash.mp (h f hf hinline)
  contextHash := by
    intro m hm hinline
    obtain ⟨f, hf, before, rfl⟩ := exists_matchFinding hm
    exact (index.agrees f.anchor).contextHash.mp (h f hf hinline)

/-- What an index tells of a place agrees. So a reconciliation of findings that were refined against
the index has both hashes of every finding on its line, provided that all of them have fingerprints;
it has no result otherwise. -/
theorem hashes_of_refine_iff (index : DiffIndex) (prior : List PriorFinding) :
    (∀ a, index.Agrees a) ∧
    ∀ (drafts : List Draft) (files : List ChangedFile) (o : RefineOptions) (r : Refined),
      refine drafts index files o = .ok r →
        ((∃ run, reconcile r.findings prior index = .ok run ∧ run.HashesInline r.findings) ↔
          ∀ f ∈ r.findings, f.hasFingerprint = true) ∧
        (reconcile r.findings prior index = .error .unencodable ↔
          ∃ f ∈ r.findings, f.hasFingerprint = false) := by
  refine ⟨index.agrees, fun drafts files o r h => ⟨?_, reconcile_eq_error_iff⟩⟩
  apply exists_reconcile_iff
  apply hashesInline_ofMatches
  intro f hf hinline
  exact hasLine_of_mem_findings h hf hinline

/-- A remark on a line of the diff stays there, and gets both hashes. -/
theorem hashes_of_refine_twoLines :
    ∃ r run, refine [.finding (remark "a" "one" 2)] twoLines [] .default = .ok r ∧
      r.findings.map Finding.commentType = [.inline] ∧
      reconcile r.findings [] twoLines = .ok run ∧ run.HashesInline r.findings := by
  have hresult : (refine [.finding (remark "a" "one" 2)] twoLines [] .default).map (fun r =>
      (r.findings.map Finding.commentType, r.findings.all Finding.hasFingerprint)) =
      .ok ([.inline], true) := by
    decide +kernel
  obtain ⟨r, hr, hr'⟩ := exists_ok_of_map_eq_ok hresult
  obtain ⟨htypes, hall⟩ := Prod.mk.inj hr'
  obtain ⟨-, hrefined⟩ := hashes_of_refine_iff twoLines []
  obtain ⟨hhashes, -⟩ := hrefined _ _ _ r hr
  obtain ⟨run, hrun, hinline⟩ := hhashes.mpr (List.all_eq_true.mp hall)
  exact ⟨r, run, hr, htypes, hrun, hinline⟩

/-- A refined remark on a line of the diff that has no fingerprint gets no hashes, as there is no
result. -/
theorem not_hashesInline_unhashable :
    ∃ r, refine [.finding unhashable] twoLines [] .default = .ok r ∧
      r.findings.map Finding.commentType = [.inline] ∧
      ¬ ∃ run, reconcile r.findings [] twoLines = .ok run ∧ run.HashesInline r.findings := by
  have hresult : (refine [.finding unhashable] twoLines [] .default).map (fun r =>
      (r.findings.map Finding.commentType, r.findings.all Finding.hasFingerprint)) =
      .ok ([.inline], false) := by
    decide +kernel
  obtain ⟨r, hr, hr'⟩ := exists_ok_of_map_eq_ok hresult
  obtain ⟨htypes, hnone⟩ := Prod.mk.inj hr'
  refine ⟨r, hr, htypes, ?_⟩
  rintro ⟨run, hrun, -⟩
  have hall := (reconcile_eq_ok_iff.mp hrun).1
  rw [hnone] at hall
  exact Bool.false_ne_true hall

end Triage
