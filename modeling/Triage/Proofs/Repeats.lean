import Triage.Proofs.Refinement.Presentation
import Triage.Proofs.Refinement.Strongest
import Triage.Proofs.Supplement.Extension
import Triage.Proofs.Text.Wording

/-!
# What is dropped as a repeat

A finding that a refinement drops as a repeat shares its key with one that stays
(`exists_kept_of_mem`), and one that a supplement drops as a duplicate echoes another one. Either
way the two titles have the same ASCII letters and digits, but the key does not see anything else:
they are worded the same iff they agree in that too (`repeats_share_letters`). Of titles in a script
that ASCII does not have, the key sees nothing at all.
-/

namespace Triage

/-- The items that do not stay are as many as are counted. -/
theorem exists_dropped (items : List Ranked) :
    ∃ dropped, items.Perm ((keepStrongest items).kept ++ dropped) ∧
      dropped.length = (keepStrongest items).dropped := by
  obtain ⟨kept, hperm, hsublist⟩ := keepStrongest_subperm items
  obtain ⟨dropped, hdropped⟩ := hsublist.exists_perm_append
  have hall : items.Perm ((keepStrongest items).kept ++ dropped) :=
    hdropped.trans (hperm.append_right dropped)
  refine ⟨dropped, hall, ?_⟩
  have hlen := hall.length_eq
  have hcounted := length_keepStrongest items
  rw [List.length_append] at hlen
  omega

/-! ### Titles of repeats -/

/-- Whether two titles have the same ASCII letters and digits, and hence the same wording iff they
agree in everything else. -/
structure SharesLetters (t u : String) : Prop where
  letters : Text.letters t.toList = Text.letters u.toList
  worded : Text.wording t.toList = Text.wording u.toList ↔
    Text.strangers t.toList = Text.strangers u.toList

theorem SharesLetters.of_letters_eq {t u : String}
    (h : Text.letters t.toList = Text.letters u.toList) : SharesLetters t u where
  letters := h
  worded := by
    rw [Text.wording_eq_iff]
    exact and_iff_right h

theorem wording_canonical (f : Finding) :
    Text.wording f.canonical.title.toList = Text.wording f.title.toList := by
  have htitle : f.canonical.title = onChars Text.singleLine f.title := by
    unfold Finding.canonical Finding.tidied
    rfl
  rw [htitle, onChars, String.toList_ofList, Text.wording_singleLine]

theorem letters_canonical (f : Finding) :
    Text.letters f.canonical.title.toList = Text.letters f.title.toList := by
  unfold Text.letters
  rw [wording_canonical]

theorem letters_eq_of_dedupeKey_eq {f g : Finding} (h : f.dedupeKey = g.dedupeKey) :
    Text.letters f.title.toList = Text.letters g.title.toList := by
  simp only [Finding.dedupeKey, DedupeKey.mk.injEq] at h
  obtain ⟨-, -, -, -, htitle, -⟩ := h
  exact Text.letters_eq_of_titleKey_eq (String.ofList_injective htitle)

theorem letters_eq_of_plainTitle_eq {t u : String} (h : plainTitle t = plainTitle u) :
    Text.letters t.toList = Text.letters u.toList :=
  Text.letters_eq_of_alnumKey_lower_eq (String.ofList_injective h)

theorem title_shown {index : DiffIndex} {o : RefineOptions} (f : Finding) :
    (f.shown index o).title = f.title := by
  rw [Finding.shown_eq]

/-- An account of what a refinement drops as repeats: for each of them an item stays that says the
same, and the title of the draft is related to that of the item. -/
structure Refined.AreRepeats (R : String → String → Prop) (drafts : List Draft)
    (index : DiffIndex) (files : List ChangedFile) (o : RefineOptions) (r : Refined)
    (outcomes : List Outcome) (dropped : List Ranked) : Prop where
  screened : AreScreened drafts index files o outcomes
  all : (outcomes.filterMap Outcome.item?).Perm ((strongestOf outcomes).kept ++ dropped)
  counted : dropped.length = r.diagnostics.deduplicated
  known : ∀ item ∈ dropped, ∃ known ∈ (strongestOf outcomes).kept,
    known.dedupeKey = item.dedupeKey ∧
      ∃ d ∈ drafts, ∃ f, d.read = .ok f ∧ item.finding = f.canonical.shown index o ∧
        R f.title known.finding.title

/-- An account of what a supplement drops as duplicates, of the same kind. -/
structure Supplemented.AreRepeats (R : String → String → Prop) (base : List Finding)
    (supplemental : List Draft) (r : Supplemented) (outcomes : List SupplementOutcome) :
    Prop where
  judged : AreJudged base supplemental outcomes
  counted : outcomes.count .duplicate = r.droppedDuplicates
  known : ∀ draft, (draft, SupplementOutcome.duplicate) ∈ supplemental.zip outcomes →
    ∃ f, draft.read = .ok f ∧ ∃ known ∈ r.findings, f.canonical.Echoes known ∧
      R f.title known.title

/-- What is dropped as a repeat has the ASCII letters and digits of what stays for it, and its
wording iff they agree in everything else. -/
theorem repeats_share_letters (drafts supplemental : List Draft) (index : DiffIndex)
    (files : List ChangedFile) (o : RefineOptions) (base : List Finding) :
    (∀ r, refine drafts index files o = .ok r → ∃ outcomes dropped,
      r.AreRepeats SharesLetters drafts index files o outcomes dropped) ∧
    ∀ r, supplement base supplemental = .ok r → ∃ outcomes,
      r.AreRepeats SharesLetters base supplemental outcomes := by
  constructor
  · intro r hr
    obtain ⟨-, outcomes, houtcomes, rfl⟩ := refine_eq_ok_iff.mp hr
    obtain ⟨dropped, hall, hcount⟩ := exists_dropped (outcomes.filterMap Outcome.item?)
    refine ⟨outcomes, dropped, houtcomes, hall, hcount, ?_⟩
    intro item hitem
    have hmem : item ∈ outcomes.filterMap Outcome.item? :=
      hall.mem_iff.mpr (List.mem_append_right _ hitem)
    obtain ⟨known, hknown, hkey⟩ := exists_kept_of_mem hmem
    obtain ⟨d, hd, f, hread, hfinding, -⟩ := exists_draft_of_mem houtcomes hmem
    refine ⟨known, hknown, hkey, d, hd, f, hread, hfinding, .of_letters_eq ?_⟩
    calc Text.letters f.title.toList
        = Text.letters f.canonical.title.toList := (letters_canonical f).symm
      _ = Text.letters item.finding.title.toList := by rw [hfinding, title_shown]
      _ = Text.letters known.finding.title.toList := (letters_eq_of_dedupeKey_eq hkey).symm
  · intro r hr
    obtain ⟨-, outcomes, hjudged, rfl⟩ := supplement_eq_ok_iff_areJudged.mp hr
    refine ⟨outcomes, hjudged, rfl, ?_⟩
    intro draft hdraft
    obtain ⟨f, hread, known, hknown, hecho⟩ := (extends_ofOutcomes hjudged).echoed draft hdraft
    refine ⟨f, hread, known, hknown, hecho, .of_letters_eq ?_⟩
    rw [← letters_canonical f]
    exact (letters_eq_of_plainTitle_eq hecho.title).symm

/-- Two remarks whose titles differ in case and punctuation. -/
def rephrased : List Draft :=
  [.finding (remark "a" "Missing null check" 2), .finding (remark "b" "missing null-check!" 2)]

/-- One of two remarks that differ in case and punctuation is dropped as a repeat, in one pass and
between passes. -/
theorem repeats_share_letters_rephrased :
    (∃ r, refine rephrased twoLines [] .default = .ok r ∧ r.diagnostics.deduplicated = 1 ∧
      ∃ outcomes dropped,
        r.AreRepeats SharesLetters rephrased twoLines [] .default outcomes dropped) ∧
    ∃ r, supplement [remark "a" "Missing null check" 2] rephrased = .ok r ∧
      r.droppedDuplicates = 2 ∧ ∃ outcomes,
        r.AreRepeats SharesLetters [remark "a" "Missing null check" 2] rephrased outcomes := by
  obtain ⟨hrefine, hsupplement⟩ := repeats_share_letters rephrased rephrased twoLines [] .default
    [remark "a" "Missing null check" 2]
  have hone : (refine rephrased twoLines [] .default).map (fun r => r.diagnostics.deduplicated) =
      .ok 1 := by
    decide +kernel
  have htwo : (supplement [remark "a" "Missing null check" 2] rephrased).map
      Supplemented.droppedDuplicates = .ok 2 := by
    decide +kernel
  obtain ⟨r, hr, hcount⟩ := exists_ok_of_map_eq_ok hone
  obtain ⟨s, hs, hduplicates⟩ := exists_ok_of_map_eq_ok htwo
  exact ⟨⟨r, hr, hcount, hrefine r hr⟩, s, hs, hduplicates, hsupplement s hs⟩

/-- Whether two titles say the same in lower case, without blanks and ASCII punctuation. -/
def IsWordedAs (t u : String) : Prop :=
  Text.wording t.toList = Text.wording u.toList

/-- With repeats that are worded as what stays for them, not all wordings differ. -/
theorem Refined.AreRepeats.not_nodup_wordings {drafts : List Draft} {index : DiffIndex}
    {files : List ChangedFile} {o : RefineOptions} {r : Refined} {outcomes : List Outcome}
    {dropped : List Ranked}
    (h : r.AreRepeats IsWordedAs drafts index files o outcomes dropped)
    (hpos : 0 < r.diagnostics.deduplicated) :
    ¬ ((outcomes.filterMap Outcome.item?).map fun item =>
      Text.wording item.finding.title.toList).Nodup := by
  intro hnodup
  rw [(h.all.map _).nodup_iff, List.map_append, List.nodup_append] at hnodup
  have hne : dropped ≠ [] := by
    rw [← List.length_pos_iff, h.counted]
    exact hpos
  obtain ⟨item, hitem⟩ := List.exists_mem_of_ne_nil dropped hne
  obtain ⟨known, hknown, -, -, -, f, -, hfinding, hworded⟩ := h.known item hitem
  have hsame : Text.wording known.finding.title.toList =
      Text.wording item.finding.title.toList := by
    rw [hfinding, title_shown, wording_canonical]
    exact hworded.symm
  exact hnodup.2.2 _ (List.mem_map_of_mem hknown) _ (List.mem_map_of_mem hitem) hsame

/-- Two remarks whose titles have no letter of ASCII and nothing in common. -/
def foreignRemarks : List Draft :=
  [.finding (remark "a" "変数が未初期化" 2), .finding (remark "b" "例外が握りつぶされる" 2)]

/-- Of two remarks in another script, one is dropped for another one that is worded otherwise, in
one pass and between passes. -/
theorem not_wordedAs_foreignRemarks :
    (∃ r, refine foreignRemarks twoLines [] .default = .ok r ∧ r.diagnostics.deduplicated = 1 ∧
      ¬ ∃ outcomes dropped,
        r.AreRepeats IsWordedAs foreignRemarks twoLines [] .default outcomes dropped) ∧
    ∃ r, supplement [remark "a" "変数が未初期化" 2]
        [.finding (remark "b" "例外が握りつぶされる" 2)] = .ok r ∧ r.droppedDuplicates = 1 ∧
      ¬ ∃ outcomes, r.AreRepeats IsWordedAs [remark "a" "変数が未初期化" 2]
        [.finding (remark "b" "例外が握りつぶされる" 2)] outcomes := by
  constructor
  · have hone : (refine foreignRemarks twoLines [] .default).map
        (fun r => r.diagnostics.deduplicated) = .ok 1 := by
      decide +kernel
    obtain ⟨r, hr, hcount⟩ := exists_ok_of_map_eq_ok hone
    refine ⟨r, hr, hcount, ?_⟩
    rintro ⟨outcomes, dropped, hrepeats⟩
    -- No two of the screened titles are worded the same.
    have hwordings : (foreignRemarks.mapM (screen twoLines (changedPaths []) .default)).map
        (fun outcomes => (outcomes.filterMap Outcome.item?).map fun item =>
          Text.wording item.finding.title.toList) =
        .ok ["変数が未初期化".toList, "例外が握りつぶされる".toList] := by
      decide +kernel
    rw [mapM_eq_ok_iff.mpr hrepeats.screened, Except.map, Except.ok.injEq] at hwordings
    refine hrepeats.not_nodup_wordings (by rw [hcount]; exact Nat.one_pos) ?_
    rw [hwordings]
    decide
  · have hone : (supplement [remark "a" "変数が未初期化" 2]
        [.finding (remark "b" "例外が握りつぶされる" 2)]).map
          (fun r => (r.droppedDuplicates, r.findings.map Finding.title)) =
        .ok (1, ["変数が未初期化"]) := by
      decide +kernel
    obtain ⟨r, hr, hresult⟩ := exists_ok_of_map_eq_ok hone
    obtain ⟨hcount, htitles⟩ := Prod.mk.inj hresult
    refine ⟨r, hr, hcount, ?_⟩
    rintro ⟨outcomes, hrepeats⟩
    have hcounted := hrepeats.counted.trans hcount
    obtain ⟨outcome, rfl⟩ := List.length_eq_one_iff.mp hrepeats.judged.length_eq
    have houtcome : outcome = .duplicate := by
      by_contra hother
      rw [List.count_singleton, if_neg (by simpa using hother)] at hcounted
      exact absurd hcounted (by decide)
    obtain ⟨f, hread, known, hknown, -, hworded⟩ := hrepeats.known
      (.finding (remark "b" "例外が握りつぶされる" 2)) (by rw [houtcome]; simp)
    obtain rfl : remark "b" "例外が握りつぶされる" 2 = f := Except.ok.inj hread
    have htitle : known.title ∈ r.findings.map Finding.title := List.mem_map_of_mem hknown
    rw [htitles, List.mem_singleton] at htitle
    rw [htitle] at hworded
    revert hworded
    unfold IsWordedAs
    decide +kernel

end Triage
