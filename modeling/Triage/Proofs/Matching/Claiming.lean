import Triage.Matching.Reconciliation
import Triage.Proofs.Matching.Semantic
import Triage.Proofs.Traversal
import Mathlib.Data.List.Forall2
import Mathlib.Data.List.Nodup

/-!
# Claims of a reconciliation

Each finding claims at most one prior finding, one of the store whose id nobody claimed before
(`findPrior_spec`). So no id is claimed twice (`nodup_claims`), and whatever is claimed is in the
store (`claim_mem`). A finding that the store knows under its match key claims what is stored there
unless an earlier one did, and then what it restates (`findPrior_eq_some`).
-/

namespace Triage

variable {prior : List PriorFinding} {index : DiffIndex} {claimed : List StoreId}

/-! ### What one finding may claim -/

theorem storedMatchKey_of_firstStored {matchKey : String} {p : PriorFinding}
    (h : firstStored prior matchKey = some p) : p.storedMatchKey = some matchKey := by
  have hkey := List.find?_some h
  exact of_decide_eq_true hkey

/-- What a finding updates is what is stored under its match key, or else, if that is missing or
claimed, what it is matched to by its words. -/
theorem findPrior_eq_some {matchKey : String} {f : Finding} {p : PriorFinding}
    {method : MatchMethod} (h : findPrior prior claimed matchKey f = some (p, method)) :
    (method = .exact ∧ firstStored prior matchKey = some p ∧ p.id ∉ claimed) ∨
      (method = .semantic ∧ semanticMatch f prior claimed = some p ∧
        ∀ known, firstStored prior matchKey = some known → known.id ∈ claimed) := by
  have hrestated (h : (semanticMatch f prior claimed).map (fun p => (p, MatchMethod.semantic)) =
      some (p, method)) : method = .semantic ∧ semanticMatch f prior claimed = some p := by
    obtain ⟨q, hq, heq⟩ := Option.map_eq_some_iff.mp h
    obtain ⟨rfl, rfl⟩ := Prod.mk.inj heq
    exact ⟨rfl, hq⟩
  unfold findPrior at h
  simp only at h
  cases hstored : firstStored prior matchKey with
  | none =>
    rw [hstored] at h
    obtain ⟨hmethod, hmatch⟩ := hrestated h
    exact Or.inr ⟨hmethod, hmatch, fun known hknown => absurd hknown (by simp)⟩
  | some stored =>
    rw [hstored] at h
    simp only at h
    split_ifs at h with hclaimed
    · obtain ⟨hmethod, hmatch⟩ := hrestated h
      refine Or.inr ⟨hmethod, hmatch, fun known hknown => ?_⟩
      exact Option.some.inj hknown ▸ hclaimed
    · obtain ⟨rfl, rfl⟩ := Prod.mk.inj (Option.some.inj h)
      exact Or.inl ⟨rfl, rfl, hclaimed⟩

/-- What a finding updates is of the store, and nobody claimed its id. -/
theorem findPrior_spec {matchKey : String} {f : Finding} {p : PriorFinding} {method : MatchMethod}
    (h : findPrior prior claimed matchKey f = some (p, method)) : p ∈ prior ∧ p.id ∉ claimed := by
  rcases findPrior_eq_some h with ⟨-, hstored, hclaimed⟩ | ⟨-, hmatch, -⟩
  · exact ⟨List.mem_of_find?_eq_some hstored, hclaimed⟩
  · obtain ⟨hprior, hclaimed, -⟩ := semanticMatch_spec hmatch
    exact ⟨hprior, hclaimed⟩

/-- A finding that is stored under its match key claims what is stored there if nobody did. -/
theorem findPrior_eq_exact {matchKey : String} {p : PriorFinding}
    (hstored : firstStored prior matchKey = some p) (hclaimed : p.id ∉ claimed) (f : Finding) :
    findPrior prior claimed matchKey f = some (p, .exact) := by
  unfold findPrior
  simp only
  rw [hstored]
  exact if_neg hclaimed

/-- A finding updates some prior one if nobody claimed what is stored under its match key, or
something that it restates. -/
theorem exists_findPrior {matchKey : String} {f : Finding} {p : PriorFinding}
    (hp : p ∈ prior) (hnew : p.id ∉ claimed)
    (h : firstStored prior matchKey = some p ∨ f.Restates p) :
    ∃ q, findPrior prior claimed matchKey f = some q := by
  have hrestated (h : f.Restates p) :
      ∃ q, (semanticMatch f prior claimed).map (fun p => (p, MatchMethod.semantic)) = some q := by
    obtain ⟨q, hq⟩ := exists_semanticMatch hp hnew h
    exact ⟨(q, .semantic), by rw [hq, Option.map_some]⟩
  rcases h with hstored | hrestates
  · exact ⟨(p, .exact), findPrior_eq_exact hstored hnew f⟩
  · unfold findPrior
    simp only
    cases firstStored prior matchKey with
    | none => exact hrestated hrestates
    | some known =>
      simp only
      split_ifs
      · exact hrestated hrestates
      · exact ⟨_, rfl⟩

/-! ### What all of them claim -/

theorem claim_matchFinding_spec {f : Finding} {id : StoreId}
    (h : (matchFinding prior index claimed f).claim = some id) :
    id ∈ prior.map PriorFinding.id ∧ id ∉ claimed := by
  obtain ⟨⟨p, method⟩, hp, rfl⟩ := Option.map_eq_some_iff.mp h
  obtain ⟨hmem, hclaimed⟩ := findPrior_spec hp
  exact ⟨List.mem_map_of_mem hmem, hclaimed⟩

/-- A finding updates what is stored under its match key, or what it restates. -/
theorem prior_matchFinding_spec {f : Finding} {p : PriorFinding} {method : MatchMethod}
    (h : (matchFinding prior index claimed f).prior = some (p, method)) :
    p ∈ prior ∧
      (method = .exact → p.storedMatchKey = some (matchFinding prior index claimed f).matchKey) ∧
      (method = .semantic → f.Restates p) := by
  refine ⟨(findPrior_spec h).1, ?_⟩
  rcases findPrior_eq_some h with ⟨rfl, hstored, -⟩ | ⟨rfl, hmatch, -⟩
  · exact ⟨fun _ => storedMatchKey_of_firstStored hstored, nofun⟩
  · exact ⟨nofun, fun _ => (semanticMatch_spec hmatch).2.2⟩

/-- There is one match for each finding, in order. -/
theorem forall₂_matchAll (claimed : List StoreId) (findings : List Finding) :
    List.Forall₂ (fun f m => ∃ before, m = matchFinding prior index before f) findings
      (matchAll prior index claimed findings) := by
  induction findings generalizing claimed with
  | nil => exact List.Forall₂.nil
  | cons f rest ih => exact List.Forall₂.cons ⟨claimed, rfl⟩ (ih _)

theorem map_finding_matchAll (claimed : List StoreId) (findings : List Finding) :
    (matchAll prior index claimed findings).map FindingMatch.finding = findings := by
  induction findings generalizing claimed with
  | nil => rfl
  | cons f rest ih =>
    unfold matchAll
    simp only
    rw [List.map_cons, ih]
    rfl

theorem exists_matchFinding {findings : List Finding} {m : FindingMatch}
    (h : m ∈ matchAll prior index claimed findings) :
    ∃ f ∈ findings, ∃ before, m = matchFinding prior index before f := by
  obtain ⟨f, hf, before, rfl⟩ := exists_mem_left (forall₂_matchAll claimed findings) h
  exact ⟨f, hf, before, rfl⟩

/-- Whatever is claimed is in the store. -/
theorem claim_mem {findings : List Finding} {m : FindingMatch} {id : StoreId}
    (hm : m ∈ matchAll prior index claimed findings) (h : m.claim = some id) :
    id ∈ prior.map PriorFinding.id := by
  obtain ⟨f, -, before, rfl⟩ := exists_matchFinding hm
  exact (claim_matchFinding_spec h).1

/-- No id is claimed twice, or again. -/
theorem nodup_claims (findings : List Finding) :
    ((matchAll prior index claimed findings).filterMap FindingMatch.claim).Nodup ∧
    ∀ id ∈ (matchAll prior index claimed findings).filterMap FindingMatch.claim, id ∉ claimed := by
  induction findings generalizing claimed with
  | nil => exact ⟨List.nodup_nil, fun id hid => absurd hid List.not_mem_nil⟩
  | cons f rest ih =>
    unfold matchAll
    simp only
    cases hclaim : (matchFinding prior index claimed f).claim with
    | none =>
      rw [List.filterMap_cons_none hclaim]
      exact ih
    | some id =>
      -- For the findings that follow, the id counts as claimed.
      obtain ⟨hnodup, hnew⟩ := @ih (id :: claimed)
      rw [List.filterMap_cons_some hclaim]
      constructor
      · refine List.nodup_cons.mpr ⟨fun hid => ?_, hnodup⟩
        exact hnew id hid (List.mem_cons_self ..)
      · intro other hother
        rcases List.mem_cons.mp hother with rfl | hother
        · exact (claim_matchFinding_spec hclaim).2
        · exact fun h => hnew other hother (List.mem_cons_of_mem _ h)

/-! ### Turns -/

/-- At its turn, a finding meets as claimed what the findings in front of it claimed. -/
theorem exists_turn (prior : List PriorFinding) (index : DiffIndex) (claimed : List StoreId)
    {findings : List Finding} {n : ℕ} {f : Finding} (h : findings[n]? = some f) :
    ∃ before, (matchAll prior index claimed findings)[n]? =
        some (matchFinding prior index before f) ∧
      ∀ id, id ∈ before ↔ id ∈ claimed ∨ ∃ k < n, ∃ m,
        (matchAll prior index claimed findings)[k]? = some m ∧ m.claim = some id := by
  induction findings generalizing claimed n with
  | nil => exact absurd h (by simp)
  | cons g rest ih =>
    unfold matchAll
    simp only
    cases n with
    | zero =>
      rw [List.getElem?_cons_zero, Option.some.injEq] at h
      subst h
      exact ⟨claimed, rfl, fun id => by simp⟩
    | succ n =>
      -- What the head claimed counts as claimed for all that follow.
      obtain ⟨before, hturn, hbefore⟩ :=
        ih ((matchFinding prior index claimed g).claim.toList ++ claimed) h
      refine ⟨before, hturn, fun id => ?_⟩
      rw [hbefore, Nat.exists_lt_succ_left, List.mem_append, Option.mem_toList]
      simp only [List.getElem?_cons_zero, List.getElem?_cons_succ, Option.some.injEq,
        exists_eq_left']
      tauto

/-- The ids that the matches in front of a turn claim. -/
def claimedBefore (matched : List FindingMatch) (n : ℕ) : List StoreId :=
  (matched.take n).filterMap FindingMatch.claim

theorem mem_claimedBefore {matched : List FindingMatch} {n : ℕ} {id : StoreId} :
    id ∈ claimedBefore matched n ↔ ∃ k < n, ∃ m, matched[k]? = some m ∧ m.claim = some id := by
  unfold claimedBefore
  rw [List.mem_filterMap]
  constructor
  · rintro ⟨m, hm, hclaim⟩
    obtain ⟨k, hk⟩ := List.mem_iff_getElem?.mp hm
    rw [List.getElem?_take] at hk
    split_ifs at hk with hlt
    exact ⟨k, hlt, m, hk, hclaim⟩
  · rintro ⟨k, hlt, m, hm, hclaim⟩
    refine ⟨m, List.mem_iff_getElem?.mpr ⟨k, ?_⟩, hclaim⟩
    rw [List.getElem?_take, if_pos hlt, hm]

/-- Only which ids are claimed matters, not in what order or how often. -/
theorem matchFinding_congr {before : List StoreId} (h : ∀ id, id ∈ before ↔ id ∈ claimed)
    (f : Finding) : matchFinding prior index before f = matchFinding prior index claimed f := by
  have hcontenders : contenders f prior before = contenders f prior claimed := by
    unfold contenders
    simp only [h]
  have hprior : ∀ matchKey, findPrior prior before matchKey f =
      findPrior prior claimed matchKey f := by
    intro matchKey
    unfold findPrior semanticMatch
    simp only [h, hcontenders]
  unfold matchFinding
  simp only [hprior]

/-- At its turn, a finding is matched as if what those in front of it claim were claimed. -/
theorem getElem?_matchAll {findings : List Finding} {n : ℕ} {f : Finding}
    (h : findings[n]? = some f) :
    (matchAll prior index [] findings)[n]? =
      some (matchFinding prior index (claimedBefore (matchAll prior index [] findings) n) f) := by
  obtain ⟨before, hturn, hbefore⟩ := exists_turn prior index [] h
  rw [hturn, Option.some.injEq]
  apply matchFinding_congr
  intro id
  rw [hbefore, mem_claimedBefore, or_iff_right List.not_mem_nil]

/-- What was claimed at one turn is not claimed at a later one. -/
theorem claim_ne_of_lt {findings : List Finding} {j k : ℕ} (hlt : j < k) {m n : FindingMatch}
    (hm : (matchAll prior index claimed findings)[j]? = some m)
    (hn : (matchAll prior index claimed findings)[k]? = some n) {id : StoreId}
    (hclaim : m.claim = some id) : n.claim ≠ some id := by
  have hlength : (matchAll prior index claimed findings).length = findings.length :=
    (forall₂_matchAll claimed findings).length_eq.symm
  obtain ⟨hk, -⟩ := List.getElem?_eq_some_iff.mp hn
  obtain ⟨before, hturn, hbefore⟩ :=
    exists_turn prior index claimed (List.getElem?_eq_getElem (hlength ▸ hk))
  rw [hn, Option.some.injEq] at hturn
  intro hagain
  rw [hturn] at hagain
  exact (claim_matchFinding_spec hagain).2 ((hbefore id).mpr (Or.inr ⟨j, hlt, m, hm, hclaim⟩))

/-! ### Results -/

theorem reconcile_eq_ok_iff {findings : List Finding} {r : Reconciliation} :
    reconcile findings prior index = .ok r ↔
      findings.all Finding.hasFingerprint = true ∧
        r = .ofMatches (matchAll prior index [] findings) prior index := by
  unfold reconcile
  cases findings.all Finding.hasFingerprint with
  | false => simp
  | true => simp [eq_comm (b := r)]

/-- If the matches give a result of a kind, there is such a result iff every finding has a
fingerprint. -/
theorem exists_reconcile_iff {findings : List Finding} {holds : Reconciliation → Prop}
    (h : holds (.ofMatches (matchAll prior index [] findings) prior index)) :
    (∃ r, reconcile findings prior index = .ok r ∧ holds r) ↔
      ∀ f ∈ findings, f.hasFingerprint = true := by
  rw [← List.all_eq_true]
  constructor
  · rintro ⟨r, hr, -⟩
    exact (reconcile_eq_ok_iff.mp hr).1
  · exact fun hall => ⟨_, reconcile_eq_ok_iff.mpr ⟨hall, rfl⟩, h⟩

/-- A finding without a fingerprint is the only thing that leaves no result. -/
theorem reconcile_eq_error_iff {findings : List Finding} :
    reconcile findings prior index = .error .unencodable ↔
      ∃ f ∈ findings, f.hasFingerprint = false := by
  have hnot : (∃ f ∈ findings, f.hasFingerprint = false) ↔
      ¬ findings.all Finding.hasFingerprint = true := by
    simp [List.all_eq_true]
  rw [hnot]
  unfold reconcile
  split_ifs with hall
  · exact iff_of_false (by simp) (not_not_intro hall)
  · exact iff_of_true rfl hall

/-- The match of a finding in a reconciliation is the one at its turn. -/
theorem getElem?_matched {findings : List Finding} {r : Reconciliation}
    (hr : reconcile findings prior index = .ok r) {n : ℕ} {f : Finding}
    (hf : findings[n]? = some f) :
    r.matched[n]? = some (matchFinding prior index (claimedBefore r.matched n) f) := by
  obtain ⟨-, rfl⟩ := reconcile_eq_ok_iff.mp hr
  exact getElem?_matchAll hf

end Triage
