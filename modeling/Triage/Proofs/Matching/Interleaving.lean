import Triage.Proofs.Matching.Rereview

/-!
# Known findings among new ones

A store that holds a review is reconciled with its findings again, at whatever places among further
ones. A further finding may take an entry of the store if it has the match key of that entry or
restates it (`Finding.MayTake`). The known findings all get their own entries iff no further finding
that may take an entry stands in front of its owner (`keeps_entries_iff`).
-/

namespace Triage

variable {index : DiffIndex} {known more : List Finding} {entries prior : List PriorFinding}
  {place : Fin known.length → Fin more.length}

/-- Whether a finding may take an entry of the store: it has the match key of the entry, or restates
it. -/
def Finding.MayTake (index : DiffIndex) (f : Finding) (p : PriorFinding) : Prop :=
  p.storedMatchKey = some (f.matchKeyIn index) ∨ f.Restates p

instance (index : DiffIndex) (f : Finding) (p : PriorFinding) : Decidable (f.MayTake index p) :=
  inferInstanceAs (Decidable (_ ∨ _))

/-- Whether the match at a place updates a prior finding. -/
def UpdatesAt (matched : List FindingMatch) (n : ℕ) (p : PriorFinding) : Prop :=
  ∃ m method, matched[n]? = some m ∧ m.prior = some (p, method)

/-- Whether a store holds one entry for each of the known findings, and knows the entries apart by
their ids and by their match keys. -/
structure HoldsEntries (index : DiffIndex) (known : List Finding)
    (entries prior : List PriorFinding) : Prop where
  perm : prior.Perm entries
  ids : (entries.map PriorFinding.id).Nodup
  keys : (entries.map PriorFinding.storedMatchKey).Nodup
  keyed : entries.map PriorFinding.storedMatchKey = known.map fun f => some (f.matchKeyIn index)

namespace HoldsEntries

theorem length_eq (h : HoldsEntries index known entries prior) : entries.length = known.length := by
  simpa using congrArg List.length h.keyed

theorem mem_of_getElem? (h : HoldsEntries index known entries prior) {n : ℕ} {p : PriorFinding}
    (hp : entries[n]? = some p) : p ∈ prior :=
  h.perm.mem_iff.mpr (List.mem_of_getElem? hp)

/-- Every prior finding is the entry of a known one. -/
theorem exists_getElem? (h : HoldsEntries index known entries prior) {p : PriorFinding}
    (hp : p ∈ prior) : ∃ i : Fin known.length, entries[(i : ℕ)]? = some p := by
  obtain ⟨n, hn⟩ := List.mem_iff_getElem?.mp (h.perm.mem_iff.mp hp)
  obtain ⟨hlt, -⟩ := List.getElem?_eq_some_iff.mp hn
  exact ⟨⟨n, h.length_eq ▸ hlt⟩, hn⟩

theorem exists_entry (h : HoldsEntries index known entries prior) (i : Fin known.length) :
    ∃ p, entries[(i : ℕ)]? = some p := by
  have hlt : (i : ℕ) < entries.length := by
    rw [h.length_eq]
    exact i.isLt
  exact ⟨_, List.getElem?_eq_getElem hlt⟩

theorem eq_of_id_eq (h : HoldsEntries index known entries prior) {p q : PriorFinding}
    (hp : p ∈ prior) (hq : q ∈ prior) (hid : p.id = q.id) : p = q :=
  List.inj_on_of_nodup_map h.ids (h.perm.mem_iff.mp hp) (h.perm.mem_iff.mp hq) hid

/-- The entry of a known finding is stored under its match key. -/
theorem storedMatchKey_getElem? (h : HoldsEntries index known entries prior)
    {i : Fin known.length} {p : PriorFinding} (hp : entries[(i : ℕ)]? = some p) :
    p.storedMatchKey = some ((known.get i).matchKeyIn index) := by
  have hkeys := congrArg (·[(i : ℕ)]?) h.keyed
  simp only [List.getElem?_map, hp, Option.map_some] at hkeys
  rw [List.getElem?_eq_getElem i.isLt, Option.map_some, Option.some.injEq] at hkeys
  exact hkeys

/-- Two entries under one match key are one. -/
theorem index_inj (h : HoldsEntries index known entries prior) {i j : Fin known.length}
    {p : PriorFinding} (hi : entries[(i : ℕ)]? = some p) (hj : entries[(j : ℕ)]? = some p) :
    i = j := by
  obtain ⟨hilt, rfl⟩ := List.getElem?_eq_some_iff.mp hi
  obtain ⟨hjlt, heq⟩ := List.getElem?_eq_some_iff.mp hj
  exact Fin.ext ((h.ids.of_map _).getElem_inj_iff.mp heq.symm)

/-- The first prior finding under a stored match key is the only one. -/
theorem firstStored_eq (h : HoldsEntries index known entries prior) {p : PriorFinding}
    {matchKey : String} (hp : p ∈ prior) (hkey : p.storedMatchKey = some matchKey) :
    firstStored prior matchKey = some p := by
  have hkeys : (prior.map PriorFinding.storedMatchKey).Nodup :=
    (h.perm.map _).nodup_iff.mpr h.keys
  have hfind := find?_eq_some_of_nodup hkeys hp
  rw [hkey] at hfind
  exact hfind

/-- What a finding claims it may take. -/
theorem mayTake_of_claim (h : HoldsEntries index known entries prior) {before : List StoreId}
    {f : Finding} {p : PriorFinding} (hp : p ∈ prior)
    (hclaim : (matchFinding prior index before f).claim = some p.id) : f.MayTake index p := by
  obtain ⟨⟨q, method⟩, hq, hid⟩ := Option.map_eq_some_iff.mp hclaim
  obtain ⟨hmem, hexact, hsemantic⟩ := prior_matchFinding_spec hq
  obtain rfl : q = p := h.eq_of_id_eq hmem hp hid
  cases method with
  | exact => exact Or.inl (hexact rfl)
  | semantic => exact Or.inr (hsemantic rfl)

/-- A finding that may take an entry which nobody claimed takes this one or another. -/
theorem exists_prior_of_mayTake (h : HoldsEntries index known entries prior)
    {before : List StoreId} {f : Finding} {p : PriorFinding} (hp : p ∈ prior)
    (hnew : p.id ∉ before) (htake : f.MayTake index p) :
    ∃ q, (matchFinding prior index before f).prior = some q :=
  exists_findPrior hp hnew (htake.imp_left (h.firstStored_eq hp))

end HoldsEntries

theorem claim_of_updatesAt {matched : List FindingMatch} {n : ℕ} {p : PriorFinding}
    (h : UpdatesAt matched n p) : ∃ m, matched[n]? = some m ∧ m.claim = some p.id := by
  obtain ⟨m, method, hm, hprior⟩ := h
  refine ⟨m, hm, ?_⟩
  unfold FindingMatch.claim
  rw [hprior, Option.map_some]

/-- No prior finding is updated at two places. -/
theorem place_eq_of_updatesAt {j k : ℕ} {p : PriorFinding}
    (hj : UpdatesAt (matchAll prior index [] more) j p)
    (hk : UpdatesAt (matchAll prior index [] more) k p) : j = k := by
  obtain ⟨m, hm, hclaim⟩ := claim_of_updatesAt hj
  obtain ⟨n, hn, hclaim'⟩ := claim_of_updatesAt hk
  rcases lt_trichotomy j k with hlt | heq | hlt
  · exact absurd hclaim' (claim_ne_of_lt hlt hm hn hclaim)
  · exact heq
  · exact absurd hclaim (claim_ne_of_lt hlt hn hm hclaim')

/-- A known finding that got its own entry claims no other one. -/
theorem claim_ne_of_updatesAt (hstore : HoldsEntries index known entries prior)
    {matched : List FindingMatch} {i k : Fin known.length} (hne : k ≠ i) {p : PriorFinding}
    (hp : entries[(i : ℕ)]? = some p) {n : ℕ}
    (hupdates : ∀ q, entries[(k : ℕ)]? = some q → UpdatesAt matched n q) {m : FindingMatch}
    (hm : matched[n]? = some m) : m.claim ≠ some p.id := by
  obtain ⟨q, hq⟩ := hstore.exists_entry k
  obtain ⟨m', hm', hclaim'⟩ := claim_of_updatesAt (hupdates q hq)
  rw [hm, Option.some.injEq] at hm'
  subst hm'
  intro hclaim
  rw [hclaim, Option.some.injEq] at hclaim'
  have heq : p = q :=
    hstore.eq_of_id_eq (hstore.mem_of_getElem? hp) (hstore.mem_of_getElem? hq) hclaim'
  subst heq
  exact hne (hstore.index_inj hq hp)

/-- If no further finding in front of a known one may take its entry, the known one gets it. -/
theorem updatesAt_of_free (hstore : HoldsEntries index known entries prior)
    (hplace : ∀ i, more.get (place i) = known.get i)
    (hfree : ∀ (i : Fin known.length) (p), entries[(i : ℕ)]? = some p →
      ∀ j < place i, (∀ k, place k ≠ j) → ¬ (more.get j).MayTake index p)
    {n : ℕ} {i : Fin known.length} (hn : place i = n) {p : PriorFinding}
    (hp : entries[(i : ℕ)]? = some p) : UpdatesAt (matchAll prior index [] more) n p := by
  -- The induction is on the places: all known findings in front got their own entries.
  induction n using Nat.strong_induction_on generalizing i p with
  | _ n ih =>
    obtain ⟨before, hturn, hbefore⟩ :=
      exists_turn prior index [] (List.getElem?_eq_getElem (place i).isLt)
    have hnew : p.id ∉ before := by
      intro hmem
      rcases (hbefore p.id).mp hmem with hnil | ⟨k, hk, m, hm, hclaim⟩
      · exact List.not_mem_nil hnil
      · have hlt : k < more.length := hk.trans (place i).isLt
        by_cases hknown : ∃ i', place i' = ⟨k, hlt⟩
        · obtain ⟨i', hi'⟩ := hknown
          have hvalue : (place i' : ℕ) = k := congrArg Fin.val hi'
          have hne : i' ≠ i := by
            rintro rfl
            omega
          have hupdates : ∀ q, entries[(i' : ℕ)]? = some q →
              UpdatesAt (matchAll prior index [] more) k q :=
            fun q hq => ih k (by omega) hvalue hq
          exact claim_ne_of_updatesAt hstore hne hp hupdates hm hclaim
        · obtain ⟨earlier, hearlier, -⟩ :=
            exists_turn prior index [] (List.getElem?_eq_getElem hlt)
          rw [hm, Option.some.injEq] at hearlier
          subst hearlier
          exact hfree i p hp ⟨k, hlt⟩ hk (fun i' hi' => hknown ⟨i', hi'⟩)
            (hstore.mayTake_of_claim (hstore.mem_of_getElem? hp) hclaim)
    have hkey := hstore.storedMatchKey_getElem? hp
    rw [← hplace i] at hkey
    have hfirst := hstore.firstStored_eq (hstore.mem_of_getElem? hp) hkey
    rw [← hn]
    exact ⟨_, .exact, hturn, findPrior_eq_exact hfirst hnew _⟩

/-- If the known findings get their own entries, no further one in front may take one of these. -/
theorem not_mayTake_of_updatesAt (hstore : HoldsEntries index known entries prior)
    (hgets : ∀ (i : Fin known.length) (p), entries[(i : ℕ)]? = some p →
      UpdatesAt (matchAll prior index [] more) (place i) p)
    {i : Fin known.length} {p : PriorFinding} (hp : entries[(i : ℕ)]? = some p)
    {j : Fin more.length} (hj : j < place i) (hfurther : ∀ k, place k ≠ j) :
    ¬ (more.get j).MayTake index p := by
  intro htake
  obtain ⟨before, hturn, hbefore⟩ :=
    exists_turn prior index [] (List.getElem?_eq_getElem j.isLt)
  have hnew : p.id ∉ before := by
    intro hmem
    rcases (hbefore p.id).mp hmem with hnil | ⟨k, hk, m, hm, hclaim⟩
    · exact List.not_mem_nil hnil
    · obtain ⟨n, hn, hclaim'⟩ := claim_of_updatesAt (hgets i p hp)
      exact claim_ne_of_lt (hk.trans hj) hm hn hclaim hclaim'
  obtain ⟨⟨q, method⟩, hprior⟩ :=
    hstore.exists_prior_of_mayTake (hstore.mem_of_getElem? hp) hnew htake
  -- What it takes is the entry of a known finding, which then has it at two places.
  obtain ⟨k, hk⟩ := hstore.exists_getElem? (prior_matchFinding_spec hprior).1
  have htwice := place_eq_of_updatesAt (hgets k q hk) ⟨_, method, hturn, hprior⟩
  exact hfurther k (Fin.ext htwice)

/-- The findings of a review get the entries that it left in the store, wherever they are among
further ones, iff in front of none of them stands a further finding that may take its entry. -/
theorem keeps_entries_iff (place : Fin known.length → Fin more.length)
    {start : List PriorFinding} {run again : Reconciliation}
    (hrun : reconcile known start index = .ok run)
    (hentries : List.Forall₂ FindingMatch.IsStoredAs run.matched entries)
    (hids : (entries.map PriorFinding.id).Nodup)
    (hkeys : (known.map (Finding.matchKeyIn index)).Nodup)
    (hprior : prior.Perm entries) (hplace : ∀ i, more.get (place i) = known.get i)
    (hagain : reconcile more prior index = .ok again) :
    (∀ (i : Fin known.length) (p), entries[(i : ℕ)]? = some p →
        UpdatesAt again.matched (place i) p) ↔
      ∀ (i : Fin known.length) (p), entries[(i : ℕ)]? = some p →
        ∀ j < place i, (∀ k, place k ≠ j) → ¬ (more.get j).MayTake index p := by
  obtain ⟨-, rfl⟩ := reconcile_eq_ok_iff.mp hrun
  obtain ⟨-, rfl⟩ := reconcile_eq_ok_iff.mp hagain
  have hkeyed := storedMatchKeys_of_entries (forall₂_matchAll [] known) hentries
  have hstore : HoldsEntries index known entries prior := by
    refine ⟨hprior, hids, ?_, hkeyed⟩
    have hsome := hkeys.map (Option.some_injective String)
    rwa [List.map_map, Function.comp_def, ← hkeyed] at hsome
  constructor
  · intro hgets i p hp j hj hfurther
    exact not_mayTake_of_updatesAt hstore hgets hp hj hfurther
  · intro hfree i p hp
    exact updatesAt_of_free hstore hplace hfree rfl hp

/-- A remark as a first review stores it. -/
def storedRemark : PriorFinding :=
  (matchFinding [] .empty [] (remark "b" "two" 2)).toPrior (.number 1)

/-- A remark on another thing does not keep the one behind it from its entry. -/
theorem keeps_entry_behind_other :
    ∃ run again, reconcile [remark "b" "two" 2] [] .empty = .ok run ∧
      List.Forall₂ FindingMatch.IsStoredAs run.matched [storedRemark] ∧
      reconcile [remark "c" "three" 3, remark "b" "two" 2] [storedRemark] .empty = .ok again ∧
      UpdatesAt again.matched 1 storedRemark := by
  have hrun : reconcile [remark "b" "two" 2] [] .empty =
      .ok (.ofMatches (matchAll [] .empty [] [remark "b" "two" 2]) [] .empty) :=
    reconcile_eq_ok_iff.mpr ⟨by decide, rfl⟩
  have hstored : List.Forall₂ FindingMatch.IsStoredAs
      (matchAll [] .empty [] [remark "b" "two" 2]) [storedRemark] := .cons rfl .nil
  have hagain : reconcile [remark "c" "three" 3, remark "b" "two" 2] [storedRemark] .empty =
      .ok (.ofMatches (matchAll [storedRemark] .empty []
        [remark "c" "three" 3, remark "b" "two" 2]) [storedRemark] .empty) :=
    reconcile_eq_ok_iff.mpr ⟨by decide, rfl⟩
  have hkeeps := keeps_entries_iff (fun _ => 1) hrun hstored (List.nodup_singleton _)
    (List.nodup_singleton _) (List.Perm.refl _) (by decide) hagain
  refine ⟨_, _, hrun, hstored, hagain, hkeeps.mpr ?_ 0 storedRemark rfl⟩
  have hother : ¬ (remark "c" "three" 3).MayTake .empty storedRemark := by
    decide +kernel
  intro i p hp j hj hfurther
  obtain rfl : p = storedRemark := List.mem_singleton.mp (List.mem_of_getElem? hp)
  have hfront : (j : ℕ) < 1 := hj
  have hzero : j = ⟨0, by decide⟩ := Fin.ext (Nat.lt_one_iff.mp hfront)
  rw [hzero]
  exact hother

/-- A remark that restates a later one takes its entry, and the later one is taken for new. -/
theorem loses_entry_to_restatement :
    ∃ run again, reconcile [remark "b" "two" 2] [] .empty = .ok run ∧
      List.Forall₂ FindingMatch.IsStoredAs run.matched [storedRemark] ∧
      ([storedRemark].map PriorFinding.id).Nodup ∧
      ([remark "b" "two" 2].map (Finding.matchKeyIn .empty)).Nodup ∧
      reconcile [remark "c" "two" 3, remark "b" "two" 2] [storedRemark] .empty = .ok again ∧
      ¬ UpdatesAt again.matched 1 storedRemark := by
  have hclaims : (matchAll [storedRemark] .empty []
      [remark "c" "two" 3, remark "b" "two" 2]).map FindingMatch.claim =
      [some (.number 1), none] := by
    decide +kernel
  refine ⟨_, _, reconcile_eq_ok_iff.mpr ⟨by decide, rfl⟩, .cons rfl .nil, List.nodup_singleton _,
    List.nodup_singleton _, reconcile_eq_ok_iff.mpr ⟨by decide, rfl⟩, ?_⟩
  intro hupdates
  obtain ⟨m, hm, hclaim⟩ := claim_of_updatesAt hupdates
  have hnone := congrArg (·[1]?) hclaims
  simp only [List.getElem?_map] at hnone
  unfold Reconciliation.ofMatches at hm
  simp only at hm
  rw [hm, Option.map_some, hclaim] at hnone
  simp at hnone

end Triage
