import Triage.Proofs.Matching.Rereview

/-!
# Who has a match key

Several prior findings may be stored under one match key: its owners. A finding asks for the first
owner of its match key only, so it is matched exactly to an unclaimed owner iff that one is
unclaimed (`findsOwner_iff`). If the first owner is claimed, the others are out of reach of an exact
match, and the finding gets what it restates, or nothing.
-/

namespace Triage

variable {findings : List Finding} {prior : List PriorFinding} {index : DiffIndex}
  {claimed : List StoreId} {f : Finding} {p : PriorFinding} {n : ℕ}

/-- Whether a prior finding is stored under the match key that a finding has in a diff. -/
def Finding.IsOwnedBy (index : DiffIndex) (f : Finding) (p : PriorFinding) : Prop :=
  p.storedMatchKey = some (f.matchKeyIn index)

/-- The first of the prior findings that are stored under the match key of a finding. -/
def Finding.firstOwner (index : DiffIndex) (f : Finding) (prior : List PriorFinding) :
    Option PriorFinding :=
  firstStored prior (f.matchKeyIn index)

/-- Whether a finding is matched exactly, to an owner of its match key that nobody claimed before
its turn. -/
def Reconciliation.MatchesOwner (index : DiffIndex) (prior : List PriorFinding)
    (r : Reconciliation) (n : ℕ) (f : Finding) : Prop :=
  ∃ m, r.matched[n]? = some m ∧
    ∃ p ∈ prior, f.IsOwnedBy index p ∧ p.id ∉ claimedBefore r.matched n ∧
      m.prior = some (p, .exact)

/-- Whether a finding is matched exactly if, at its turn, there is an owner of its match key that
nobody claimed. -/
def Reconciliation.FindsOwner (index : DiffIndex) (prior : List PriorFinding)
    (r : Reconciliation) (n : ℕ) (f : Finding) : Prop :=
  (∃ p ∈ prior, f.IsOwnedBy index p ∧ p.id ∉ claimedBefore r.matched n) →
    r.MatchesOwner index prior n f

/-! ### The first owner -/

theorem mem_of_firstOwner (h : f.firstOwner index prior = some p) :
    p ∈ prior ∧ f.IsOwnedBy index p :=
  ⟨List.mem_of_find?_eq_some h, storedMatchKey_of_firstStored h⟩

theorem exists_firstOwner (hp : p ∈ prior) (howned : f.IsOwnedBy index p) :
    ∃ first, f.firstOwner index prior = some first := by
  have hsome : (f.firstOwner index prior).isSome = true := by
    unfold Finding.firstOwner firstStored
    rw [List.find?_isSome]
    exact ⟨p, hp, decide_eq_true howned⟩
  exact Option.isSome_iff_exists.mp hsome

/-- An exact match is with the first owner. -/
theorem firstOwner_of_exact
    (h : (matchFinding prior index claimed f).prior = some (p, .exact)) :
    f.firstOwner index prior = some p := by
  rcases findPrior_eq_some h with ⟨-, hstored, -⟩ | ⟨hmethod, -⟩
  · exact hstored
  · exact absurd hmethod (by simp)

/-- If the first owner is claimed, only what the finding restates is left for it. -/
theorem prior_eq_of_claimed (hfirst : f.firstOwner index prior = some p)
    (hclaimed : p.id ∈ claimed) :
    (matchFinding prior index claimed f).prior =
      (semanticMatch f prior claimed).map fun q => (q, MatchMethod.semantic) := by
  have hstored : firstStored prior (f.matchKeyIn index) = some p := hfirst
  show findPrior prior claimed (f.matchKeyIn index) f = _
  unfold findPrior
  simp only
  rw [hstored]
  exact if_pos hclaimed

/-! ### Turns -/

/-- A finding is matched exactly to an unclaimed owner iff the first owner is unclaimed. -/
theorem matchesOwner_iff {r : Reconciliation} (hr : reconcile findings prior index = .ok r)
    (hf : findings[n]? = some f) :
    r.MatchesOwner index prior n f ↔
      ∃ first, f.firstOwner index prior = some first ∧ first.id ∉ claimedBefore r.matched n := by
  have hturn := getElem?_matched hr hf
  constructor
  · rintro ⟨m, hm, p, -, -, hnew, hexact⟩
    obtain rfl := Option.some.inj (hturn.symm.trans hm)
    exact ⟨p, firstOwner_of_exact hexact, hnew⟩
  · rintro ⟨first, hfirst, hnew⟩
    obtain ⟨hmem, howned⟩ := mem_of_firstOwner hfirst
    exact ⟨_, hturn, first, hmem, howned, hnew, findPrior_eq_exact hfirst hnew f⟩

/-- Whether, at the turn of a finding, the first owner of its match key is claimed while another
owner is not. -/
def Reconciliation.HidesOwner (index : DiffIndex) (prior : List PriorFinding) (r : Reconciliation)
    (n : ℕ) (f : Finding) : Prop :=
  ∃ first p, f.firstOwner index prior = some first ∧ first.id ∈ claimedBefore r.matched n ∧
    p ∈ prior ∧ f.IsOwnedBy index p ∧ p.id ∉ claimedBefore r.matched n

theorem findsOwner_iff {r : Reconciliation} (hr : reconcile findings prior index = .ok r)
    (hf : findings[n]? = some f) :
    r.FindsOwner index prior n f ↔ ¬ r.HidesOwner index prior n f := by
  unfold Reconciliation.FindsOwner
  rw [matchesOwner_iff hr hf]
  constructor
  · rintro hfinds ⟨first, p, hfirst, hclaimed, hp, howned, hnew⟩
    obtain ⟨first', hfirst', hnew'⟩ := hfinds ⟨p, hp, howned, hnew⟩
    obtain rfl := Option.some.inj (hfirst.symm.trans hfirst')
    exact hnew' hclaimed
  · rintro hnone ⟨p, hp, howned, hnew⟩
    obtain ⟨first, hfirst⟩ := exists_firstOwner hp howned
    exact ⟨first, hfirst, fun hclaimed => hnone ⟨first, p, hfirst, hclaimed, hp, howned, hnew⟩⟩

/-- Owners with one id are claimed together, so none of them is hidden. -/
theorem not_hidesOwner_of_one_id
    (hsame : ∀ p ∈ prior, ∀ q ∈ prior, f.IsOwnedBy index p → f.IsOwnedBy index q → p.id = q.id)
    (r : Reconciliation) (n : ℕ) : ¬ r.HidesOwner index prior n f := by
  rintro ⟨first, p, hfirst, hclaimed, hp, howned, hnew⟩
  obtain ⟨hmem, howned'⟩ := mem_of_firstOwner hfirst
  exact hnew (hsame first hmem p hp howned' howned ▸ hclaimed)

/-- A finding is matched exactly if there is an unclaimed owner, unless one is hidden behind a first
owner that is claimed; then the finding gets what it restates. Nothing is hidden where the owners of
a match key have one id. -/
theorem exact_unless_hidden {r : Reconciliation} (hr : reconcile findings prior index = .ok r)
    (hf : findings[n]? = some f) :
    (r.FindsOwner index prior n f ↔ ¬ r.HidesOwner index prior n f) ∧
    (r.HidesOwner index prior n f → ∃ m, r.matched[n]? = some m ∧
      m.prior = (semanticMatch f prior (claimedBefore r.matched n)).map
        fun q => (q, MatchMethod.semantic)) ∧
    ((∀ p ∈ prior, ∀ q ∈ prior, f.IsOwnedBy index p → f.IsOwnedBy index q → p.id = q.id) →
      r.FindsOwner index prior n f) := by
  refine ⟨findsOwner_iff hr hf, ?_, ?_⟩
  · rintro ⟨first, -, hfirst, hclaimed, -⟩
    exact ⟨_, getElem?_matched hr hf, prior_eq_of_claimed hfirst hclaimed⟩
  · exact fun hsame => (findsOwner_iff hr hf).mpr (not_hidesOwner_of_one_id hsame r n)

/-- Two remarks that differ in their lines only, with a title that has no tokens. -/
def twins : List Finding :=
  [remark "b" "ab" 2, remark "b" "ab" 3]

/-- The twins as a first review stores them. -/
def storedTwins : List PriorFinding :=
  [(matchFinding [] .empty [] (remark "b" "ab" 2)).toPrior (.number 1),
    (matchFinding [] .empty [] (remark "b" "ab" 3)).toPrior (.number 2)]

/-- The review of the twins against what the first one left. -/
def twinsAgain : Reconciliation :=
  .ofMatches (matchAll storedTwins .empty [] twins) storedTwins .empty

theorem reconcile_twins : reconcile twins storedTwins .empty = .ok twinsAgain :=
  reconcile_eq_ok_iff.mpr ⟨by decide, rfl⟩

/-- Both stored twins are owners of the match key of both twins. -/
theorem isOwnedBy_storedTwins {line : ℕ} (h : p ∈ storedTwins) :
    (remark "b" "ab" line).IsOwnedBy .empty p := by
  rcases List.mem_cons.mp h with rfl | h
  · exact storedMatchKey_toPrior [] .empty [] (remark "b" "ab" 2) (.number 1)
  · obtain rfl := List.mem_singleton.mp h
    exact storedMatchKey_toPrior [] .empty [] (remark "b" "ab" 3) (.number 2)

theorem firstOwner_storedTwins (line : ℕ) :
    (remark "b" "ab" line).firstOwner .empty storedTwins =
      some ((matchFinding [] .empty [] (remark "b" "ab" 2)).toPrior (.number 1)) := by
  have howned : PriorFinding.storedMatchKey _ = some ((remark "b" "ab" line).matchKeyIn .empty) :=
    isOwnedBy_storedTwins (List.mem_cons_self ..)
  unfold Finding.firstOwner firstStored storedTwins
  apply List.find?_cons_of_pos
  exact decide_eq_true howned

/-- The first of the twins claims the first owner. -/
theorem claimedBefore_twinsAgain : claimedBefore twinsAgain.matched 1 = [.number 1] := by
  have hprior : (matchFinding storedTwins .empty [] (remark "b" "ab" 2)).prior = _ :=
    findPrior_eq_exact (firstOwner_storedTwins 2) List.not_mem_nil _
  have hclaim : (matchFinding storedTwins .empty [] (remark "b" "ab" 2)).claim =
      some (.number 1) := by
    unfold FindingMatch.claim
    rw [hprior]
    rfl
  show [matchFinding storedTwins .empty [] (remark "b" "ab" 2)].filterMap _ = _
  rw [List.filterMap_cons_some hclaim]
  rfl

/-- The second one of the twins asks for the first owner in vain. -/
theorem hidesOwner_twins : twinsAgain.HidesOwner .empty storedTwins 1 (remark "b" "ab" 3) := by
  have hsecond : (matchFinding [] .empty [] (remark "b" "ab" 3)).toPrior (.number 2) ∈
      storedTwins := List.mem_cons_of_mem _ (List.mem_singleton_self _)
  refine ⟨_, _, firstOwner_storedTwins 3, ?_, hsecond, isOwnedBy_storedTwins hsecond, ?_⟩
  · rw [claimedBefore_twinsAgain]
    exact List.mem_singleton_self _
  · rw [claimedBefore_twinsAgain, List.mem_singleton]
    exact fun heq => absurd (StoreId.number.inj heq) (by decide)

/-- The first of the twins is matched exactly, and the second one is taken for new. -/
theorem exact_unless_hidden_twins :
    reconcile twins storedTwins .empty = .ok twinsAgain ∧
      twinsAgain.FindsOwner .empty storedTwins 0 (remark "b" "ab" 2) ∧
      ∃ m, twinsAgain.matched[1]? = some m ∧ m.prior = none := by
  obtain ⟨hfinds, -⟩ := exact_unless_hidden (n := 0) reconcile_twins rfl
  obtain ⟨-, hhidden, -⟩ := exact_unless_hidden (n := 1) reconcile_twins rfl
  refine ⟨reconcile_twins, hfinds.mpr ?_, ?_⟩
  · rintro ⟨first, p, -, hclaimed, -⟩
    exact List.not_mem_nil hclaimed
  · obtain ⟨m, hm, hprior⟩ := hhidden hidesOwner_twins
    have hnone : semanticMatch (remark "b" "ab" 3) storedTwins
        (claimedBefore twinsAgain.matched 1) = none := by
      rw [claimedBefore_twinsAgain]
      decide +kernel
    exact ⟨m, hm, by rw [hprior, hnone, Option.map_none]⟩

/-- The second one of the twins has an unclaimed owner, and is not matched exactly. -/
theorem not_findsOwner_twins :
    reconcile twins storedTwins .empty = .ok twinsAgain ∧
      twins[1]? = some (remark "b" "ab" 3) ∧
      ¬ twinsAgain.FindsOwner .empty storedTwins 1 (remark "b" "ab" 3) := by
  refine ⟨reconcile_twins, rfl, fun hfinds => ?_⟩
  exact (findsOwner_iff reconcile_twins rfl).mp hfinds hidesOwner_twins

end Triage
