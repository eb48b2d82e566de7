import Triage.Proofs.Refinement.Accounting

/-!
# Refining twice

The findings of a refinement are settled: they are canonical, kept as they are, say different
things, are within the limits of their files, and stand in order. Each stage of a second refinement
therefore gives back what it gets (`ofOutcomes_settled`), so that nothing but numbers behind ids and
keys can change (`refine_refine`), and that only where the first refinement left repeats.

No stage looks at ids and keys, so what is proved of the shown items holds of the items that the
second refinement gets; `Ranked.anonymous` is the part of an item that both have in common.
-/

namespace Triage

variable {drafts : List Draft} {index : DiffIndex} {files : List ChangedFile} {o : RefineOptions}

/-! ### Items apart from ids and keys -/

/-- An item apart from the id and the key of its finding. -/
def Ranked.anonymous (item : Ranked) : Ranked :=
  ⟨item.finding.anonymous, item.score⟩

theorem map_dedupeKey_anonymous (items : List Ranked) :
    (items.map Ranked.anonymous).map Ranked.dedupeKey = items.map Ranked.dedupeKey := by
  rw [List.map_map]
  rfl

theorem countP_isInlineOn_anonymous (items : List Ranked) (path : String) :
    (items.map Ranked.anonymous).countP (Ranked.isInlineOn path) =
      items.countP (Ranked.isInlineOn path) := by
  rw [List.countP_map]
  rfl

theorem ascends_anonymous_iff (items : List Ranked) :
    Ascends Ranked.isShownBefore (items.map Ranked.anonymous) ↔
      Ascends Ranked.isShownBefore items := by
  unfold Ascends
  rw [List.isChain_map]
  rfl

/-! ### Items that stay -/

/-- Whether no stage after the screening changes anything about items. -/
structure AreSettled (o : RefineOptions) (items : List Ranked) : Prop where
  nodup : (items.map Ranked.dedupeKey).Nodup
  limited : o.forcesSummary = false → ∀ path,
    items.countP (Ranked.isInlineOn path) ≤ maxInlinePerFile o.maxInlineComments
  ascends : Ascends Ranked.isShownBefore items

theorem AreSettled.of_anonymous {items others : List Ranked} (h : AreSettled o items)
    (hsame : others.map Ranked.anonymous = items.map Ranked.anonymous) : AreSettled o others where
  nodup := by
    rw [← map_dedupeKey_anonymous, hsame, map_dedupeKey_anonymous]
    exact h.nodup
  limited := by
    intro hforces path
    rw [← countP_isInlineOn_anonymous, hsame, countP_isInlineOn_anonymous]
    exact h.limited hforces path
  ascends := by
    rw [← ascends_anonymous_iff, hsame, ascends_anonymous_iff]
    exact h.ascends

/-- The shown items are settled. -/
theorem areSettled_shownItems (o : RefineOptions) (outcomes : List Outcome) :
    AreSettled o (shownItems o outcomes) where
  nodup := by
    have hstrongest : ((strongestOf outcomes).kept.map Ranked.dedupeKey).Nodup :=
      nodup_keepStrongest _
    have hsorted : (byScore (strongestOf outcomes).kept).Perm (strongestOf outcomes).kept :=
      sortRanked_perm Ranked.isStronger _
    have hcapped : (cappedOf o outcomes).kept.Sublist (byScore (strongestOf outcomes).kept) :=
      capFrom_sublist _ _
    -- No key comes in after the strongest items were kept.
    rw [((shownItems_perm o outcomes).map Ranked.dedupeKey).nodup_iff]
    exact ((hsorted.map Ranked.dedupeKey).nodup_iff.mpr hstrongest).sublist
      (hcapped.map Ranked.dedupeKey)
  limited := by
    intro hforces path
    rw [(shownItems_perm o outcomes).countP_eq]
    exact countP_capFrom_le .empty _ path hforces
  ascends := ascends_sortRanked isRankOrder_isShownBefore _

/-- Settled items that were kept as they are are shown as they are, and nothing is dropped. -/
theorem ofOutcomes_settled {items : List Ranked} (h : AreSettled o items) :
    Refined.ofOutcomes o (items.map fun item => .kept item false false) =
      ⟨suffixRepeats (items.map Ranked.finding), ⟨0, 0, 0, 0, 0, 0⟩⟩ := by
  have hitems : (items.map fun item => Outcome.kept item false false).filterMap Outcome.item? =
      items := by
    rw [List.filterMap_map]
    exact List.filterMap_some
  have hstrongest : strongestOf (items.map fun item => .kept item false false) = ⟨items, 0⟩ := by
    unfold strongestOf
    rw [hitems, keepStrongest_eq_self h.nodup]
  -- The order by score is coarser than the one in which the items stand.
  have hsorted : byScore items = items := by
    apply sortRanked_eq_self isRankOrder_isStronger
    exact h.ascends.imp fun a b hab => Ranked.isStronger_eq_false hab
  have hcapped : cappedOf o (items.map fun item => .kept item false false) = ⟨items, 0⟩ := by
    unfold cappedOf
    rw [hstrongest, hsorted]
    exact capFrom_eq_self .empty h.limited
  have hshown : shownItems o (items.map fun item => .kept item false false) = items := by
    unfold shownItems
    rw [hcapped]
    exact sortRanked_eq_self isRankOrder_isShownBefore h.ascends
  unfold Refined.ofOutcomes
  rw [hshown, hstrongest, hcapped]
  simp only [List.countP_map, Function.comp_def, Outcome.isIgnored, Outcome.isEmpty,
    Outcome.isConverted, Outcome.isDowngraded, List.countP_false]
  rfl

/-! ### The findings as drafts -/

/-- What holds of each item that was kept. -/
theorem isScreened_of_mem {outcomes : List Outcome}
    (hpaths : ∀ d ∈ drafts, ∀ f, d.read = .ok f →
      Path.relative (Path.relative f.path) = Path.relative f.path)
    (h : AreScreened drafts index files o outcomes) {item : Ranked}
    (hitem : item ∈ outcomes.filterMap Outcome.item?) :
    item.IsScreened index (changedPaths files) o ∧ item.finding.IsCanonical := by
  obtain ⟨d, hd, f, hread, hfinding, hscreened⟩ := exists_draft_of_mem h hitem
  have hcanonical := Finding.isCanonical_canonical (hpaths d hd f hread)
  exact ⟨hscreened, hfinding ▸ hcanonical.shown⟩

/-- Items with numbers behind their ids and keys. -/
theorem exists_items_of_numbered {items : List Ranked} {findings : List Finding}
    (h : List.Forall₂ Finding.IsNumbered (items.map Ranked.finding) findings)
    (hscreened : ∀ item ∈ items,
      item.IsScreened index (changedPaths files) o ∧ item.finding.IsCanonical) :
    ∃ others : List Ranked, others.map Ranked.finding = findings ∧
      others.map Ranked.anonymous = items.map Ranked.anonymous ∧
      ∀ item ∈ others, item.IsScreened index (changedPaths files) o ∧ item.finding.IsCanonical := by
  induction items generalizing findings with
  | nil =>
    rw [List.map_nil, List.forall₂_nil_left_iff] at h
    subst h
    exact ⟨[], rfl, rfl, fun item hitem => absurd hitem List.not_mem_nil⟩
  | cons item rest ih =>
    rw [List.map_cons, List.forall₂_cons_left_iff] at h
    obtain ⟨g, findings, ⟨j, k, rfl⟩, hrest, rfl⟩ := h
    rw [List.forall_mem_cons] at hscreened
    obtain ⟨others, hfindings, hanonymous, hothers⟩ := ih hrest hscreened.2
    refine ⟨⟨_, item.score⟩ :: others, by rw [List.map_cons, hfindings], ?_, ?_⟩
    · rw [List.map_cons, List.map_cons, hanonymous]
      rfl
    · rw [List.forall_mem_cons]
      refine ⟨⟨hscreened.1.1.withIdentity _ _, ?_⟩, hothers⟩
      exact hscreened.1.2.withIdentity (hscreened.1.2.id.numbered j) (hscreened.1.2.key.numbered k)

/-- Refining the findings of a refinement once more changes nothing but the numbers of repeats, and
drops and changes no finding. -/
theorem refine_refine {r : Refined}
    (hpaths : ∀ d ∈ drafts, ∀ f, d.read = .ok f →
      Path.relative (Path.relative f.path) = Path.relative f.path)
    (h : refine drafts index files o = .ok r) :
    ∃ again, refine (r.findings.map Draft.finding) index files o = .ok again ∧
      again.findings.map Finding.anonymous = r.findings.map Finding.anonymous ∧
      ((r.findings.map Finding.id).Nodup → (r.findings.map Finding.key).Nodup →
        again.findings = r.findings) ∧
      again.diagnostics = ⟨0, 0, 0, 0, 0, 0⟩ := by
  obtain ⟨hshare, outcomes, houtcomes, rfl⟩ := refine_eq_ok_iff.mp h
  have hscreened : ∀ item ∈ shownItems o outcomes,
      item.IsScreened index (changedPaths files) o ∧ item.finding.IsCanonical := by
    intro item hitem
    exact isScreened_of_mem hpaths houtcomes ((shownItems_subperm o outcomes).subset hitem)
  obtain ⟨items, hfindings, hanonymous, hitems⟩ := exists_items_of_numbered
    (forall₂_suffixRepeats ((shownItems o outcomes).map Ranked.finding)) hscreened
  have hsettled := (areSettled_shownItems o outcomes).of_anonymous hanonymous
  have hagain : refine ((Refined.ofOutcomes o outcomes).findings.map Draft.finding) index files o =
      .ok (.ofOutcomes o (items.map fun item => .kept item false false)) := by
    rw [refine_eq_ok_iff]
    refine ⟨hshare, _, ?_, rfl⟩
    show List.Forall₂ _ ((suffixRepeats ((shownItems o outcomes).map Ranked.finding)).map
      Draft.finding) _
    rw [← hfindings, List.map_map, List.forall₂_map_left_iff, List.forall₂_map_right_iff,
      List.forall₂_same]
    intro item hitem
    exact (hitems item hitem).1.screen_eq (hitems item hitem).2
  rw [ofOutcomes_settled hsettled, hfindings] at hagain
  refine ⟨_, hagain, ?_, ?_, rfl⟩
  · exact map_anonymous_suffixRepeats _
  · intro hids hkeys
    exact suffixRepeats_eq_self hids hkeys

/-- What is distinct among the items that were kept is so among those that are shown. -/
theorem nodup_map_shownItems {outcomes : List Outcome} {g : Finding → String}
    (h : ((outcomes.filterMap Outcome.item?).map fun item => g item.finding).Nodup) :
    (((shownItems o outcomes).map Ranked.finding).map g).Nodup := by
  obtain ⟨items, hperm, hsublist⟩ := shownItems_subperm o outcomes
  rw [List.map_map, ← (hperm.map _).nodup_iff]
  exact h.sublist (hsublist.map _)

/-- Two remarks that say the same, and another one between them. -/
def remarks : List Draft :=
  [.finding (remark "a" "one" 1), .finding (remark "b" "two" 2), .finding (remark "c" "one" 1)]

/-- One of the remarks is dropped, and all go into the summary, but only the first time. -/
theorem refine_refine_remarks :
    ∃ r again, refine remarks .empty [] .default = .ok r ∧
      refine (r.findings.map Draft.finding) .empty [] .default = .ok again ∧
      r.diagnostics.deduplicated = 1 ∧ r.diagnostics.convertedToSummary = 3 ∧
      again.diagnostics = ⟨0, 0, 0, 0, 0, 0⟩ ∧ again.findings = r.findings := by
  have hpaths : ∀ d ∈ remarks, ∀ f, d.read = .ok f →
      Path.relative (Path.relative f.path) = Path.relative f.path := by
    intro d hd f hread
    simp only [remarks, List.mem_cons, List.not_mem_nil, or_false] at hd
    rcases hd with rfl | rfl | rfl <;>
    · obtain rfl := Except.ok.inj hread
      decide
  have hresult : (remarks.mapM (screen .empty (changedPaths []) .default)).map (fun outcomes =>
      ((outcomes.filterMap Outcome.item?).map fun item => item.finding.id,
        (outcomes.filterMap Outcome.item?).map fun item => item.finding.key,
        (strongestOf outcomes).dropped, outcomes.countP Outcome.isConverted)) =
      .ok (["a", "b", "c"], ["a", "b", "c"], 1, 3) := by
    decide +kernel
  cases houtcomes : remarks.mapM (screen .empty (changedPaths []) .default) with
  | error e =>
    rw [houtcomes] at hresult
    exact absurd hresult (by simp [Except.map])
  | ok outcomes =>
    rw [houtcomes, Except.map, Except.ok.injEq] at hresult
    simp only [Prod.mk.injEq] at hresult
    obtain ⟨hids, hkeys, hdropped, hconverted⟩ := hresult
    have hr : refine remarks .empty [] .default = .ok (.ofOutcomes .default outcomes) :=
      refine_eq_ok_iff.mpr ⟨by decide +kernel, outcomes, mapM_eq_ok_iff.mp houtcomes, rfl⟩
    have hidsNodup :
        (((shownItems .default outcomes).map Ranked.finding).map Finding.id).Nodup := by
      apply nodup_map_shownItems
      rw [hids]
      decide
    have hkeysNodup :
        (((shownItems .default outcomes).map Ranked.finding).map Finding.key).Nodup := by
      apply nodup_map_shownItems
      rw [hkeys]
      decide
    have hfindings : (Refined.ofOutcomes .default outcomes).findings = _ :=
      suffixRepeats_eq_self hidsNodup hkeysNodup
    obtain ⟨again, hagain, -, hsame, hzero⟩ := refine_refine hpaths hr
    refine ⟨_, again, hr, hagain, hdropped, hconverted, hzero, hsame ?_ ?_⟩
    · rw [hfindings]
      exact hidsNodup
    · rw [hfindings]
      exact hkeysNodup

end Triage
