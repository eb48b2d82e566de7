import Triage.Proofs.Finding.Numbering
import Triage.Proofs.Matching.Claiming
import Triage.Report
import Mathlib.Data.List.Perm.Basic

/-!
# What a reconciliation tells apart

Whenever the findings have fingerprints, a reconciliation assigns to each of them at most one prior
finding, and every prior finding is either assigned or counted as fixed or obsolete, never two of
these (`Reconciliation.Classifies`, `reconcile_classifies_iff`). A finding without a fingerprint, as
its key or its path has half of a surrogate pair, leaves no result at all.
-/

namespace Triage

variable {findings : List Finding} {prior : List PriorFinding} {index : DiffIndex}

/-- Whether a result tells findings and prior findings apart: a finding has one match, an id is
claimed once, and the prior findings that nobody claimed are fixed or obsolete, each as often as it
was there and in its order. -/
structure Reconciliation.Classifies (findings : List Finding) (prior : List PriorFinding)
    (index : DiffIndex) (r : Reconciliation) : Prop where
  finding : r.matched.map FindingMatch.finding = findings
  stored : ∀ m ∈ r.matched, ∀ p method, m.prior = some (p, method) → p ∈ prior
  exact : ∀ m ∈ r.matched, ∀ p, m.prior = some (p, .exact) → p.storedMatchKey = some m.matchKey
  semantic : ∀ m ∈ r.matched, ∀ p, m.prior = some (p, .semantic) → m.finding.Restates p
  method : ∀ m ∈ r.matched, m.methodName = .null ↔ m.claim = none
  once : (r.matched.filterMap FindingMatch.claim).Nodup
  rest : (r.fixed ++ r.obsolete).Perm
    (prior.filter fun p => p.id ∉ r.matched.filterMap FindingMatch.claim)
  fixedOrder : r.fixed.Sublist prior
  obsoleteOrder : r.obsolete.Sublist prior
  fixedPath : ∀ p ∈ r.fixed, index.hasPath p.path = true
  obsoletePath : ∀ p ∈ r.obsolete, index.hasPath p.path = false

/-- A match has a method iff it claims something. -/
theorem FindingMatch.methodName_eq_null_iff (m : FindingMatch) :
    m.methodName = .null ↔ m.claim = none := by
  unfold methodName claim
  cases m.prior with
  | none => simp
  | some p => simp [Value.text, Value.null]

/-- The result of matching all findings in turn tells them and the prior ones apart. -/
theorem classifies_ofMatches (findings : List Finding) (prior : List PriorFinding)
    (index : DiffIndex) :
    (Reconciliation.ofMatches (matchAll prior index [] findings) prior index).Classifies
      findings prior index where
  finding := map_finding_matchAll [] findings
  stored := by
    intro m hm p method hprior
    obtain ⟨f, -, before, rfl⟩ := exists_matchFinding hm
    exact (prior_matchFinding_spec hprior).1
  exact := by
    intro m hm p hprior
    obtain ⟨f, -, before, rfl⟩ := exists_matchFinding hm
    exact (prior_matchFinding_spec hprior).2.1 rfl
  semantic := by
    intro m hm p hprior
    obtain ⟨f, -, before, rfl⟩ := exists_matchFinding hm
    exact (prior_matchFinding_spec hprior).2.2 rfl
  method := fun m _ => m.methodName_eq_null_iff
  once := (nodup_claims findings).1
  rest := List.filter_append_perm _ _
  fixedOrder := List.filter_sublist.trans List.filter_sublist
  obsoleteOrder := List.filter_sublist.trans List.filter_sublist
  fixedPath := fun p hp => (List.mem_filter.mp hp).2
  obsoletePath := by
    intro p hp
    have hnot := (List.mem_filter.mp hp).2
    simpa using hnot

/-- A reconciliation tells the findings and the prior ones apart iff every finding has a
fingerprint, and fails otherwise. -/
theorem reconcile_classifies_iff (findings : List Finding) (prior : List PriorFinding)
    (index : DiffIndex) :
    ((∃ r, reconcile findings prior index = .ok r ∧ r.Classifies findings prior index) ↔
      ∀ f ∈ findings, f.hasFingerprint = true) ∧
    (reconcile findings prior index = .error .unencodable ↔
      ∃ f ∈ findings, f.hasFingerprint = false) := by
  constructor
  · rw [← List.all_eq_true]
    constructor
    · rintro ⟨r, hr, -⟩
      exact (reconcile_eq_ok_iff.mp hr).1
    · intro hall
      exact ⟨_, reconcile_eq_ok_iff.mpr ⟨hall, rfl⟩, classifies_ofMatches findings prior index⟩
  · have hnot : (∃ f ∈ findings, f.hasFingerprint = false) ↔
        findings.all Finding.hasFingerprint = false := by
      simp [List.all_eq_false]
    rw [hnot]
    unfold reconcile
    cases findings.all Finding.hasFingerprint with
    | false => simp
    | true => simp

/-- A remark with half of a surrogate pair in its key. -/
def unhashable : Finding :=
  { remark "a" "one" 2 with key := "k" ++ String.singleton (Text.ofUnit 0xD800) }

/-- A remark that has no fingerprint leaves a reconciliation without a result. -/
theorem not_classifies_unhashable :
    ¬ ∃ r, reconcile [unhashable] [] .empty = .ok r ∧ r.Classifies [unhashable] [] .empty := by
  have hfails : reconcile [unhashable] [] .empty = .error .unencodable := by
    have hnone : [unhashable].all Finding.hasFingerprint = false := by decide +kernel
    unfold reconcile
    rw [hnone]
    rfl
  rw [hfails]
  simp

end Triage
