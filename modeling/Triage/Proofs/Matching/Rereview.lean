import Triage.Proofs.Digest
import Triage.Proofs.Finding.Numbering
import Triage.Proofs.Matching.Claiming
import Mathlib.Data.Option.Basic

/-!
# Reviews after reviews

A store is replaced, round by round, by what a reconciliation with it matched: a finding keeps the
id that it claimed, or gets a fresh one (`IsStoredFrom`). The ids of a store stay distinct over any
rounds (`nodup_ids_of_reviewed`), and a round that is repeated at once finds every finding under its
match key, with the id that it had (`exact_after_rounds`).
-/

namespace Triage

/-! ### Storing what was matched -/

/-- Whether a store holds what was matched, one prior finding for each match, in order: under the id
that was claimed, or under one that was not taken. -/
inductive IsStoredFrom : List StoreId → List FindingMatch → List PriorFinding → Prop
  | nil (taken : List StoreId) : IsStoredFrom taken [] []
  | keep {taken : List StoreId} {m : FindingMatch} {id : StoreId} {rest : List FindingMatch}
      {stored : List PriorFinding} (hclaim : m.claim = some id)
      (hrest : IsStoredFrom taken rest stored) :
      IsStoredFrom taken (m :: rest) (m.toPrior id :: stored)
  | fresh {taken : List StoreId} {m : FindingMatch} {id : StoreId} {rest : List FindingMatch}
      {stored : List PriorFinding} (hclaim : m.claim = none) (hnew : id ∉ taken)
      (hrest : IsStoredFrom (id :: taken) rest stored) :
      IsStoredFrom taken (m :: rest) (m.toPrior id :: stored)

namespace IsStoredFrom

variable {taken : List StoreId} {matched : List FindingMatch} {stored : List PriorFinding}

/-- An id in the store was claimed, or was not taken. -/
theorem id_mem_or_notMem (h : IsStoredFrom taken matched stored) {id : StoreId}
    (hid : id ∈ stored.map PriorFinding.id) :
    id ∈ matched.filterMap FindingMatch.claim ∨ id ∉ taken := by
  induction h with
  | nil taken => exact absurd hid List.not_mem_nil
  | keep hclaim hrest ih =>
    rw [List.filterMap_cons_some hclaim]
    rcases List.mem_cons.mp hid with rfl | hid
    · exact Or.inl (List.mem_cons_self ..)
    · exact (ih hid).imp_left (List.mem_cons_of_mem _)
  | fresh hclaim hnew hrest ih =>
    rw [List.filterMap_cons_none hclaim]
    rcases List.mem_cons.mp hid with rfl | hid
    · exact Or.inr hnew
    · refine (ih hid).imp_right fun hnot hmem => hnot (List.mem_cons_of_mem _ hmem)

/-- The ids of a store are distinct if no id was claimed twice, and only taken ones were. -/
theorem nodup_ids (h : IsStoredFrom taken matched stored)
    (hnodup : (matched.filterMap FindingMatch.claim).Nodup)
    (htaken : ∀ id ∈ matched.filterMap FindingMatch.claim, id ∈ taken) :
    (stored.map PriorFinding.id).Nodup := by
  induction h with
  | nil taken => exact List.nodup_nil
  | keep hclaim hrest ih =>
    rw [List.filterMap_cons_some hclaim] at hnodup htaken
    rw [List.forall_mem_cons] at htaken
    obtain ⟨hhead, htail⟩ := List.nodup_cons.mp hnodup
    refine List.nodup_cons.mpr ⟨fun hid => ?_, ih htail htaken.2⟩
    -- The id that was kept is claimed no second time, and it is taken, so it is no fresh one.
    rcases hrest.id_mem_or_notMem hid with hclaimed | hnot
    · exact hhead hclaimed
    · exact hnot htaken.1
  | @fresh taken m id rest stored hclaim hnew hrest ih =>
    rw [List.filterMap_cons_none hclaim] at hnodup htaken
    have htaken' : ∀ other ∈ rest.filterMap FindingMatch.claim, other ∈ id :: taken :=
      fun other hother => List.mem_cons_of_mem _ (htaken other hother)
    refine List.nodup_cons.mpr ⟨fun hid => ?_, ih hnodup htaken'⟩
    -- A fresh id is claimed by none, as only taken ones are, and it is taken from then on.
    rcases hrest.id_mem_or_notMem hid with hclaimed | hnot
    · exact hnew (htaken _ hclaimed)
    · exact hnot (List.mem_cons_self ..)

end IsStoredFrom

/-- A store that counts on from above all numbers that are taken gives out no taken one. -/
theorem isStoredFrom_store {taken : List StoreId} {next : Int}
    (h : ∀ n, .number n ∈ taken → n < next) (matched : List FindingMatch) :
    IsStoredFrom taken matched (store next matched).1 := by
  induction matched generalizing taken next with
  | nil => exact .nil taken
  | cons m rest ih =>
    unfold store
    cases hclaim : m.claim with
    | some id => exact .keep hclaim (ih h)
    | none =>
      refine .fresh hclaim (fun hmem => Int.lt_irrefl next (h next hmem)) (ih ?_)
      intro n hn
      rcases List.mem_cons.mp hn with heq | hn
      · obtain rfl := StoreId.number.inj heq
        omega
      · have := h n hn
        omega

/-! ### Rounds -/

/-- What is reviewed in a round. -/
structure Round where
  findings : List Finding
  index : DiffIndex

/-- Whether a round leaves a store behind in place of another one. A round that fails leaves it as
it is. -/
inductive IsReviewed (round : Round) (prior : List PriorFinding) : List PriorFinding → Prop
  | replaced {r : Reconciliation} {stored : List PriorFinding}
      (hr : reconcile round.findings prior round.index = .ok r)
      (hstored : IsStoredFrom (prior.map PriorFinding.id) r.matched stored) :
      IsReviewed round prior stored
  | failed {e : LimitError} (he : reconcile round.findings prior round.index = .error e) :
      IsReviewed round prior prior

/-- Whether rounds, one after another, leave a store behind in place of another one. -/
inductive AreReviewed : List Round → List PriorFinding → List PriorFinding → Prop
  | nil (prior : List PriorFinding) : AreReviewed [] prior prior
  | cons {round : Round} {rounds : List Round} {prior stored last : List PriorFinding}
      (hround : IsReviewed round prior stored) (hrounds : AreReviewed rounds stored last) :
      AreReviewed (round :: rounds) prior last

/-- One round keeps the ids of a store distinct. -/
theorem IsReviewed.nodup_ids {round : Round} {prior stored : List PriorFinding}
    (h : IsReviewed round prior stored) (hprior : (prior.map PriorFinding.id).Nodup) :
    (stored.map PriorFinding.id).Nodup := by
  cases h with
  | failed he => exact hprior
  | replaced hr hstored =>
    obtain ⟨-, rfl⟩ := reconcile_eq_ok_iff.mp hr
    apply hstored.nodup_ids (nodup_claims round.findings).1
    intro id hid
    obtain ⟨m, hm, hclaim⟩ := List.mem_filterMap.mp hid
    exact claim_mem hm hclaim

/-- Any rounds keep the ids of a store distinct. -/
theorem AreReviewed.nodup_ids {rounds : List Round} {prior stored : List PriorFinding}
    (h : AreReviewed rounds prior stored) (hprior : (prior.map PriorFinding.id).Nodup) :
    (stored.map PriorFinding.id).Nodup := by
  induction h with
  | nil prior => exact hprior
  | cons hround hrounds ih => exact ih (hround.nodup_ids hprior)

/-! ### Repeating a round -/

/-- The match key of a finding in a diff. -/
def Finding.matchKeyIn (index : DiffIndex) (f : Finding) : String :=
  f.matchKey (index.hunkHash f.anchor)

theorem isEmpty_fingerprint (f : Finding) : f.fingerprint.isEmpty = false := by
  have hlen := Digest.Sha256.length_hex (joined [f.key, f.path])
  rw [Bool.eq_false_iff]
  intro hempty
  rw [String.isEmpty_iff] at hempty
  unfold Finding.fingerprint at hempty
  rw [hempty] at hlen
  exact absurd hlen (by decide)

theorem unlessVoid_text {s : String} (h : s.isEmpty = false) :
    (Value.text s).unlessVoid = some (Value.text s) :=
  if_neg (Bool.eq_false_iff.mp h)

/-- A text field is read as it was written, also if it is empty. -/
theorem getD_display_text (s : String) :
    (((some (Value.text s)).bind Value.unlessVoid).map Value.display).getD "" = s := by
  rw [Option.bind_some]
  cases hempty : s.isEmpty with
  | true =>
    have hnone : (Value.text s).unlessVoid = none := if_pos hempty
    rw [hnone]
    exact (String.isEmpty_iff.mp hempty).symm
  | false =>
    rw [unlessVoid_text hempty]
    rfl

/-- A match is stored under its match key, whatever its id. -/
theorem storedMatchKey_toPrior (prior : List PriorFinding) (index : DiffIndex)
    (claimed : List StoreId) (f : Finding) (id : StoreId) :
    ((matchFinding prior index claimed f).toPrior id).storedMatchKey =
      some (f.matchKeyIn index) := by
  -- A digest is never empty, so the stored fingerprint is not taken for a missing one.
  have hstored := unlessVoid_text (isEmpty_fingerprint f)
  show ((some (Value.text f.fingerprint)).bind Value.unlessVoid).map _ = _
  rw [Option.bind_some, hstored, Option.map_some]
  show some (matchKeyOf f.fingerprint f.path ((((some (Value.text (index.hunkHash f.anchor))).bind
    Value.unlessVoid).map Value.display).getD "") f.title) = _
  rw [getD_display_text]
  rfl

/-- Whether a prior finding is what a match is stored as, under some id. -/
def FindingMatch.IsStoredAs (m : FindingMatch) (p : PriorFinding) : Prop :=
  p = m.toPrior p.id

theorem IsStoredFrom.entries {taken : List StoreId} {matched : List FindingMatch}
    {stored : List PriorFinding} (h : IsStoredFrom taken matched stored) :
    List.Forall₂ FindingMatch.IsStoredAs matched stored := by
  induction h with
  | nil taken => exact .nil
  | keep hclaim hrest ih => exact .cons rfl ih
  | fresh hclaim hnew hrest ih => exact .cons rfl ih

/-- What is stored has the match keys of the findings, in order. -/
theorem storedMatchKeys_of_entries {prior stored : List PriorFinding} {index : DiffIndex}
    {findings : List Finding} {matched : List FindingMatch}
    (hmatched : List.Forall₂ (fun f m => ∃ before, m = matchFinding prior index before f)
      findings matched)
    (hentries : List.Forall₂ FindingMatch.IsStoredAs matched stored) :
    stored.map PriorFinding.storedMatchKey = findings.map fun f => some (f.matchKeyIn index) := by
  induction hmatched generalizing stored with
  | nil =>
    rw [List.forall₂_nil_left_iff] at hentries
    rw [hentries]
    rfl
  | cons hmatch htail ih =>
    obtain ⟨before, rfl⟩ := hmatch
    obtain ⟨p, rest, hentry, hrest, rfl⟩ := List.forall₂_cons_left_iff.mp hentries
    rw [List.map_cons, List.map_cons, ih hrest, hentry, storedMatchKey_toPrior]

/-- Findings whose match keys lead to entries of the store with distinct ids get these entries: no
finding claims the entry of a later one. -/
theorem map_prior_matchAll {prior entries : List PriorFinding} {index : DiffIndex}
    {claimed : List StoreId} {findings : List Finding}
    (hstored : List.Forall₂ (fun f p => firstStored prior (f.matchKeyIn index) = some p)
      findings entries)
    (hnodup : (entries.map PriorFinding.id).Nodup) (hnew : ∀ p ∈ entries, p.id ∉ claimed) :
    (matchAll prior index claimed findings).map FindingMatch.prior =
      entries.map fun p => some (p, MatchMethod.exact) := by
  -- What the findings in front claimed are ids of entries in front, so the entry is still free.
  induction hstored generalizing claimed with
  | nil => rfl
  | @cons f p findings entries hfirst hrest ih =>
    rw [List.forall_mem_cons] at hnew
    rw [List.map_cons, List.nodup_cons] at hnodup
    have hprior : (matchFinding prior index claimed f).prior = some (p, .exact) :=
      findPrior_eq_exact hfirst hnew.1 f
    have hclaim : (matchFinding prior index claimed f).claim = some p.id := by
      unfold FindingMatch.claim
      rw [hprior]
      rfl
    unfold matchAll
    simp only
    rw [List.map_cons, List.map_cons, hprior, hclaim]
    congr 1
    apply ih hnodup.2
    intro q hq hmem
    rcases List.mem_cons.mp hmem with heq | hmem
    · exact hnodup.1 (heq ▸ List.mem_map_of_mem hq)
    · exact hnew.2 q hq hmem

/-- Nothing in a store is fixed or obsolete if all of it was claimed. -/
theorem ofMatches_claimed {matched : List FindingMatch} {stored : List PriorFinding}
    (index : DiffIndex)
    (h : matched.map FindingMatch.prior = stored.map fun p => some (p, MatchMethod.exact)) :
    (Reconciliation.ofMatches matched stored index).fixed = [] ∧
      (Reconciliation.ofMatches matched stored index).obsolete = [] := by
  have hclaims : matched.filterMap FindingMatch.claim = stored.map PriorFinding.id := by
    have hmap : matched.filterMap FindingMatch.claim =
        (matched.map FindingMatch.prior).filterMap (Option.map (·.1.id)) := by
      rw [List.filterMap_map]
      rfl
    rw [hmap, h, List.filterMap_map, ← List.filterMap_eq_map]
    rfl
  have hunclaimed : stored.filter (fun p => p.id ∉ stored.map PriorFinding.id) = [] := by
    rw [List.filter_eq_nil_iff]
    intro p hp
    simpa using ⟨p, hp, rfl⟩
  unfold Reconciliation.ofMatches
  simp only
  rw [hclaims, hunclaimed]
  exact ⟨rfl, rfl⟩

/-- The ids of a store that started with distinct ids are distinct after any rounds, and a round
whose findings have distinct match keys finds each of them again, with the id that it had, if it is
repeated at once. -/
theorem exact_after_rounds {rounds : List Round} {start stored : List PriorFinding}
    (hstart : (start.map PriorFinding.id).Nodup) (hrounds : AreReviewed rounds start stored) :
    (stored.map PriorFinding.id).Nodup ∧
    ∀ (round : Round) (r : Reconciliation) (next : List PriorFinding),
      reconcile round.findings stored round.index = .ok r →
      IsStoredFrom (stored.map PriorFinding.id) r.matched next →
      (round.findings.map (Finding.matchKeyIn round.index)).Nodup →
      ∃ again, reconcile round.findings next round.index = .ok again ∧
        again.matched.map FindingMatch.finding = round.findings ∧
        again.matched.map FindingMatch.prior = next.map (fun p => some (p, MatchMethod.exact)) ∧
        again.fixed = [] ∧ again.obsolete = [] := by
  have hids := hrounds.nodup_ids hstart
  refine ⟨hids, ?_⟩
  intro round r next hr hnext hkeys
  have hnextIds : (next.map PriorFinding.id).Nodup :=
    (IsReviewed.replaced hr hnext).nodup_ids hids
  obtain ⟨hbytes, rfl⟩ := reconcile_eq_ok_iff.mp hr
  have hstoredKeys : next.map PriorFinding.storedMatchKey =
      round.findings.map fun f => some (f.matchKeyIn round.index) :=
    storedMatchKeys_of_entries (forall₂_matchAll [] round.findings) hnext.entries
  -- With distinct keys, the first entry with the key of a finding is the one stored for it.
  have hnextKeys : (next.map PriorFinding.storedMatchKey).Nodup := by
    rw [hstoredKeys]
    have hsome := hkeys.map (Option.some_injective String)
    rwa [List.map_map] at hsome
  have hfirst : List.Forall₂ (fun f p => firstStored next (f.matchKeyIn round.index) = some p)
      round.findings next := by
    rw [List.forall₂_iff_get]
    refine ⟨by simpa using (congrArg List.length hstoredKeys).symm, ?_⟩
    intro i hi hi'
    have hkey : (next.get ⟨i, hi'⟩).storedMatchKey =
        some ((round.findings.get ⟨i, hi⟩).matchKeyIn round.index) := by
      have := List.getElem_of_eq hstoredKeys (i := i) (by rwa [List.length_map])
      rwa [List.getElem_map, List.getElem_map] at this
    have hfind := find?_eq_some_of_nodup hnextKeys (List.get_mem next ⟨i, hi'⟩)
    rw [hkey] at hfind
    exact hfind
  have hprior := map_prior_matchAll hfirst hnextIds (fun p _ => List.not_mem_nil)
  exact ⟨_, reconcile_eq_ok_iff.mpr ⟨hbytes, rfl⟩, map_finding_matchAll [] round.findings, hprior,
    ofMatches_claimed round.index hprior⟩

/-- What a round that counts on from a number leaves of a store. -/
def Round.storeFrom (round : Round) (next : Int) (prior : List PriorFinding) : List PriorFinding :=
  (store next (matchAll prior round.index [] round.findings)).1

/-- A round that counts on from above all numbers in the store leaves a store of what it matched. -/
theorem Round.isStoredFrom_storeFrom (round : Round) {next : Int} {prior : List PriorFinding}
    (h : ∀ n, .number n ∈ prior.map PriorFinding.id → n < next) :
    IsStoredFrom (prior.map PriorFinding.id) (matchAll prior round.index [] round.findings)
      (round.storeFrom next prior) :=
  isStoredFrom_store h _

/-- A round with two remarks, and one with the second of them only. -/
def remarkRounds : Round × Round :=
  (⟨[remark "a" "one" 1, remark "b" "two" 2], .empty⟩, ⟨[remark "b" "two" 2], .empty⟩)

/-- The repetition of the second round finds the remark with the id that the round left it with. -/
theorem exact_after_remarks :
    let stored := remarkRounds.1.storeFrom 1 []
    let next := remarkRounds.2.storeFrom 3 stored
    stored.map PriorFinding.id = [.number 1, .number 2] ∧
    ∃ again, reconcile remarkRounds.2.findings next .empty = .ok again ∧
      again.matched.map FindingMatch.prior = next.map (fun p => some (p, MatchMethod.exact)) ∧
      again.fixed = [] ∧ again.obsolete = [] := by
  intro stored next
  have hids : stored.map PriorFinding.id = [.number 1, .number 2] := by
    decide +kernel
  have hfirst : AreReviewed [remarkRounds.1] [] stored := by
    refine .cons (.replaced (reconcile_eq_ok_iff.mpr ⟨by decide, rfl⟩) ?_) (.nil _)
    exact remarkRounds.1.isStoredFrom_storeFrom fun n hn => absurd hn List.not_mem_nil
  have hsecond : IsStoredFrom (stored.map PriorFinding.id)
      (matchAll stored remarkRounds.2.index [] remarkRounds.2.findings) next := by
    apply remarkRounds.2.isStoredFrom_storeFrom
    rw [hids]
    intro n hn
    simp only [List.mem_cons, List.not_mem_nil, or_false, StoreId.number.injEq] at hn
    omega
  have hstart : (([] : List PriorFinding).map PriorFinding.id).Nodup := List.nodup_nil
  obtain ⟨again, hagain, -, hprior, hfixed, hobsolete⟩ :=
    (exact_after_rounds hstart hfirst).2 remarkRounds.2 _ next
      (reconcile_eq_ok_iff.mpr ⟨by decide, rfl⟩) hsecond (List.nodup_singleton _)
  exact ⟨hids, again, hagain, hprior, hfixed, hobsolete⟩

end Triage
