import Triage.Proofs.Matching.Best
import Triage.Proofs.Matching.Claiming

/-!
# Unchanged titles

A title that is unchanged, up to the order of its tokens and what is no token, makes a prior finding
on the same topic eligible at any distance, and worth enough whatever else there is to compare
(`Finding.SharesTitle.isEligible`, `Finding.SharesTitle.minMatchScore_le`). So a finding is never
taken for new as long as nobody claimed a prior finding with its title (`shared_title_is_matched`).
-/

namespace Triage

variable {f : Finding} {p : PriorFinding} {prior : List PriorFinding} {claimed : List StoreId}

/-- Whether a prior finding is on the topic of a finding, and their titles have the same tokens, at
least one. -/
structure Finding.SharesTitle (f : Finding) (p : PriorFinding) : Prop where
  path : Path.relative p.path = Path.relative f.path
  category : p.category = f.category
  tokens : ∀ w, w ∈ Text.tokens p.title ↔ w ∈ Text.tokens f.title
  nonempty : Text.tokens f.title ≠ []

namespace Finding.SharesTitle

theorem titleLikeness_eq_one (h : f.SharesTitle p) : f.titleLikeness p = 1 :=
  jaccard_eq_one (nodup_eraseDups _) (nodup_eraseDups _) h.tokens h.nonempty

/-- Such a prior finding is eligible unless it is claimed, however far away its line is. -/
theorem isEligible (h : f.SharesTitle p) (hnew : p.id ∉ claimed) : f.IsEligible claimed p where
  unclaimed := hnew
  path := h.path
  category := h.category
  title := by
    rw [h.titleLikeness_eq_one]
    exact Or.inl (by decide +kernel)

/-- Such a prior finding scores enough, whatever its body, its line, its side and its severity. -/
theorem minMatchScore_le (h : f.SharesTitle p) : minMatchScore ≤ f.scoreOf p := by
  apply Comparison.minMatchScore_le_score
  · rw [title_compareWith, h.titleLikeness_eq_one]
  · simp only [compareWith]
    exact isUnsigned_jaccard ..

end Finding.SharesTitle

/-- A finding with the title of a prior finding that nobody claimed is matched to some prior finding
that nobody claimed. -/
theorem exists_semanticMatch_of_sharesTitle (hp : p ∈ prior) (hnew : p.id ∉ claimed)
    (h : f.SharesTitle p) :
    ∃ q ∈ prior, q.id ∉ claimed ∧ semanticMatch f prior claimed = some q := by
  cases hmatch : semanticMatch f prior claimed with
  | none =>
    have hlow := semanticMatch_eq_none_iff.mp hmatch p hp (h.isEligible hnew)
    exact absurd h.minMatchScore_le (Double.not_le_of_lt hlow)
  | some q =>
    obtain ⟨hq, hunclaimed, -⟩ := semanticMatch_spec hmatch
    exact ⟨q, hq, hunclaimed, rfl⟩

/-- A finding that updates nothing has the title of no prior finding that nobody claimed. -/
theorem not_sharesTitle_of_findPrior_eq_none {matchKey : String}
    (h : findPrior prior claimed matchKey f = none) (hp : p ∈ prior) (hnew : p.id ∉ claimed) :
    ¬ f.SharesTitle p := by
  intro hshares
  have hrestates : f.Restates p :=
    ⟨f.scoreOf p, (isEligible_iff.mp (hshares.isEligible hnew)).2, hshares.minMatchScore_le⟩
  obtain ⟨q, hq⟩ := exists_findPrior hp hnew (Or.inr hrestates)
  exact absurd (h.symm.trans hq) (by simp)

/-- A finding with the title of an unclaimed prior finding on its topic is matched, and in a
reconciliation a finding is new only if no such prior finding is unclaimed at its turn. -/
theorem shared_title_is_matched :
    (∀ (f : Finding) (candidates : List PriorFinding) (claimed : List StoreId),
      (∃ p ∈ candidates, p.id ∉ claimed ∧ f.SharesTitle p) →
      ∃ q ∈ candidates, q.id ∉ claimed ∧ semanticMatch f candidates claimed = some q) ∧
    ∀ (findings : List Finding) (prior : List PriorFinding) (index : DiffIndex)
      (r : Reconciliation), reconcile findings prior index = .ok r →
      ∀ (n : ℕ) (f : Finding), findings[n]? = some f →
        ∃ m, r.matched[n]? = some m ∧ m.finding = f ∧
          (m.prior = none →
            ∀ p ∈ prior, p.id ∉ claimedBefore r.matched n → ¬ f.SharesTitle p) := by
  constructor
  · rintro f candidates claimed ⟨p, hp, hnew, hshares⟩
    exact exists_semanticMatch_of_sharesTitle hp hnew hshares
  · intro findings prior index r hr n f hf
    exact ⟨_, getElem?_matched hr hf, rfl,
      fun hnone p hp hnew => not_sharesTitle_of_findPrior_eq_none hnone hp hnew⟩

/-- A prior remark far away, on the other side, and with another body. -/
def movedRemark : PriorFinding :=
  { priorRemark 7 "lost may be: the cache entry" 5000 with
    side := .left, severity := .nit, body := "Moved" }

theorem sharesTitle_movedRemark :
    (remark "a" "Cache entry may be lost!" 10).SharesTitle movedRemark where
  path := rfl
  category := rfl
  tokens := by
    have hprior : Text.tokens movedRemark.title = ["lost", "may", "cache", "entry"] := by
      decide +kernel
    have hnew : Text.tokens (remark "a" "Cache entry may be lost!" 10).title =
        ["cache", "entry", "may", "lost"] := by
      decide +kernel
    intro w
    calc w ∈ Text.tokens movedRemark.title
      _ ↔ w ∈ ["lost", "may", "cache", "entry"] := by rw [hprior]
      _ ↔ w ∈ ["cache", "entry", "may", "lost"] := by
        simp only [List.mem_cons, List.not_mem_nil, or_false]
        tauto
      _ ↔ w ∈ Text.tokens (remark "a" "Cache entry may be lost!" 10).title := by rw [hnew]
  nonempty := by decide +kernel

/-- A store with the remark far away behind one on another thing that is close. -/
def movedStore : List PriorFinding :=
  [priorRemark 8 "wrong unit in the log" 12, movedRemark]

/-- A remark with the title of the moved one, and one on another thing. -/
def movedFindings : List Finding :=
  [remark "a" "Cache entry may be lost!" 10, remark "b" "cache entry lost" 12]

/-- The remark far away is found, and what comes behind it is new, as nothing with its title is
left. -/
theorem shared_title_is_matched_movedRemark :
    (∃ q ∈ movedStore, q.id ∉ [StoreId.number 9] ∧
      semanticMatch (remark "a" "Cache entry may be lost!" 10) movedStore [.number 9] = some q) ∧
    ∃ r m, reconcile movedFindings movedStore .empty = .ok r ∧
      r.matched[1]? = some m ∧ m.prior = none ∧
      ∀ p ∈ movedStore, p.id ∉ claimedBefore r.matched 1 →
        ¬ (remark "b" "cache entry lost" 12).SharesTitle p := by
  obtain ⟨hfound, hnew⟩ := shared_title_is_matched
  have hclaims : (matchAll movedStore .empty [] movedFindings).map FindingMatch.claim =
      [some (.number 7), none] := by
    decide +kernel
  have hr : reconcile movedFindings movedStore .empty =
      .ok (.ofMatches (matchAll movedStore .empty [] movedFindings) movedStore .empty) :=
    reconcile_eq_ok_iff.mpr ⟨by decide, rfl⟩
  have hsecond : movedFindings[1]? = some (remark "b" "cache entry lost" 12) := rfl
  obtain ⟨m, hm, -, hunclaimed⟩ := hnew _ _ _ _ hr 1 _ hsecond
  have hprior : m.prior = none := by
    have hnone := congrArg (·[1]?) hclaims
    simp only [List.getElem?_map] at hnone
    rw [show (matchAll movedStore .empty [] movedFindings)[1]? = some m from hm] at hnone
    exact Option.map_eq_none_iff.mp (Option.some.inj hnone)
  refine ⟨hfound _ _ _ ⟨movedRemark, by simp [movedStore], by decide, sharesTitle_movedRemark⟩, ?_⟩
  exact ⟨_, m, hr, hm, hprior, hunclaimed hprior⟩

end Triage
